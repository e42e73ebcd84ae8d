import Stencil.Proofs.Gaps
/-!
# Stencil.Proofs.Attempts -- the rules that are tried

Rules are combined in trees: in groups, which end with the first member that hits, and in chains, in
which each member works on what the one before it has left. A tree does not try all of its rules.
Which of them it tries is decided by the text alone and not by the hits that the line brings along,
and what it does to the line is what the rules that it has tried do, one after the other.

Two laws follow. The hits that a line brings along are kept, and make no other difference. And as
long as nothing fails, a tree that misses leaves the text as it was, so that a group may pass the
text from member to member and still come to what its first member that hits makes of the text as it
was in the beginning.
-/

namespace Stencil

open Stencil.Expr

variable {e : Evaluator} {b : Bindings} {m m' m₁ m₂ : Machine} {f : Failure} {o : Outcome}
  {text t u : String}

/-! ## A rule that is tried -/

/-- All replacements of a rule can be computed, for the matches `hits` of its pattern. -/
def Rule.Replaces (r : Rule) (e : Evaluator) (b : Bindings) (text : String) (m : Machine)
    (hits : List Hit) : Prop :=
  ∃ m₁ news m', r.matchesIn e b text m = .ok hits m₁ ∧
    hits.mapM (r.replacementFor e b) m₁ = .ok news m'

/-- A rule that is tried, on a text and with a machine. -/
structure Attempt where
  rule : Rule
  text : String
  machine : Machine

namespace Attempt

/-- The rule matches, and all its replacements can be computed. -/
def Succeeds (e : Evaluator) (b : Bindings) (p : Attempt) : Prop :=
  ∃ hits, hits ≠ [] ∧ p.rule.Replaces e b p.text p.machine hits

/-- Neither the pattern nor a replacement fails. -/
def Smooth (e : Evaluator) (b : Bindings) (p : Attempt) : Prop :=
  ∃ hits, p.rule.Replaces e b p.text p.machine hits

variable {p : Attempt}

theorem Succeeds.exists_hit (h : p.Succeeds e b) :
    ∃ t m', p.rule.apply e b (Outcome.initial p.text) p.machine = .ok ⟨true, t⟩ m' := by
  obtain ⟨hits, hsome, m₁, news, m', hmatches, hnews⟩ := h
  exact ⟨_, m', Rule.apply_of_mapM (o := Outcome.initial p.text) hmatches hsome hnews⟩

/-- A rule hits exactly when it succeeds. -/
theorem hit_iff (h : p.rule.apply e b (Outcome.initial p.text) p.machine = .ok o m') :
    o.hit = true ↔ p.Succeeds e b := by
  constructor
  · intro hhit
    cases hmatches : p.rule.matchesIn e b p.text p.machine with
    | error f m₁ =>
      rw [(p.rule.apply_eq_error_iff (Outcome.initial p.text)).mpr hmatches] at h
      cases h
    | ok hits m₁ =>
      cases hnews : hits.mapM (p.rule.replacementFor e b) m₁ with
      | ok news m₂ =>
        refine ⟨hits, ?_, m₁, news, m₂, hmatches, hnews⟩
        rintro rfl
        rw [Rule.apply_of_no_match (o := Outcome.initial p.text) hmatches] at h
        cases h
        cases hhit
      | error f m₂ =>
        obtain ⟨before, g, after, news, m₃, rfl, hbefore, hfail⟩ := mapM_eq_error hnews
        rw [Rule.apply_of_failing (o := Outcome.initial p.text)
          ⟨before, g, after, news, m₁, m₃, hmatches, hbefore, hfail⟩] at h
        cases h
        cases hhit
  · intro hsucceeds
    obtain ⟨t, m₁, hrun⟩ := hsucceeds.exists_hit
    rw [hrun] at h
    cases h
    rfl

/-- Where nothing fails, a rule hits or leaves the text as it is. -/
theorem Smooth.exists_apply (h : p.Smooth e b) :
    ∃ o m', p.rule.apply e b (Outcome.initial p.text) p.machine = .ok o m' ∧
      (o.hit = false → o = Outcome.initial p.text) := by
  obtain ⟨hits, hreplaces⟩ := h
  by_cases hnone : hits = []
  · obtain ⟨m₁, -, -, hmatches, -⟩ := hreplaces
    rw [hnone] at hmatches
    exact ⟨_, m₁, Rule.apply_of_no_match (o := Outcome.initial p.text) hmatches, fun _ => rfl⟩
  · obtain ⟨t, m', hrun⟩ := Succeeds.exists_hit ⟨hits, hnone, hreplaces⟩
    exact ⟨_, m', hrun, nofun⟩

end Attempt

/-! ## The rules that a tree tries -/

namespace Substitution

mutual

/-- The rules that a substitution tries on a text, in turn. -/
def attempts (e : Evaluator) (b : Bindings) : Substitution → String → Machine → List Attempt
  | .rule r, text, m => [⟨r, text, m⟩]
  | .first xs, text, m => attemptsFirst e b xs text m
  | .all xs, text, m => attemptsAll e b xs text m

/-- The rules that the members of a group try: those of a further member only when the one before it
has not hit, and on what that one has left of the text. -/
def attemptsFirst (e : Evaluator) (b : Bindings) :
    List Substitution → String → Machine → List Attempt
  | [], _, _ => []
  | x :: xs, text, m =>
    x.attempts e b text m ++
      match x.apply e b (Outcome.initial text) m with
      | .ok o m' => if o.hit then [] else attemptsFirst e b xs o.text m'
      | .error _ _ => []

/-- The rules that the members of a chain try. -/
def attemptsAll (e : Evaluator) (b : Bindings) :
    List Substitution → String → Machine → List Attempt
  | [], _, _ => []
  | x :: xs, text, m =>
    x.attempts e b text m ++
      match x.apply e b (Outcome.initial text) m with
      | .ok o m' => attemptsAll e b xs o.text m'
      | .error _ _ => []

end

section Members

variable {x : Substitution} {xs : List Substitution}

theorem attemptsFirst_of_hit (h : x.apply e b (Outcome.initial text) m = .ok ⟨true, t⟩ m') :
    attemptsFirst e b (x :: xs) text m = x.attempts e b text m := by
  rw [attemptsFirst, h]
  exact List.append_nil _

theorem attemptsFirst_of_miss (h : x.apply e b (Outcome.initial text) m = .ok ⟨false, t⟩ m') :
    attemptsFirst e b (x :: xs) text m =
      x.attempts e b text m ++ attemptsFirst e b xs t m' := by
  rw [attemptsFirst, h]
  rfl

theorem attemptsFirst_of_error (h : x.apply e b (Outcome.initial text) m = .error f m') :
    attemptsFirst e b (x :: xs) text m = x.attempts e b text m := by
  rw [attemptsFirst, h]
  exact List.append_nil _

theorem attemptsAll_of_ok (h : x.apply e b (Outcome.initial text) m = .ok o m') :
    attemptsAll e b (x :: xs) text m =
      x.attempts e b text m ++ attemptsAll e b xs o.text m' := by
  rw [attemptsAll, h]

theorem attemptsAll_of_error (h : x.apply e b (Outcome.initial text) m = .error f m') :
    attemptsAll e b (x :: xs) text m = x.attempts e b text m := by
  rw [attemptsAll, h]
  exact List.append_nil _

end Members

/-! ## The hits that a line brings along -/

theorem rejoin_initial (o : Outcome) : (Outcome.initial o.text).rejoin o = o := by
  rw [Outcome.rejoin, Outcome.initial, Bool.or_false]

/-- What comes of a line that has brought the hits of an outcome along. -/
def rejoined (earlier : Outcome) :
    EStateM.Result Failure Machine Outcome → EStateM.Result Failure Machine Outcome
  | .ok o m => .ok (o.rejoin earlier) m
  | .error f m => .error f m

theorem bind_rejoin (a : Act Outcome) (earlier : Outcome) (m : Machine) :
    (a >>= fun o => pure (o.rejoin earlier)) m = rejoined earlier (a m) := by
  cases h : a m with
  | ok o m' => rw [bind_of_ok h]; rfl
  | error f m' => rw [bind_of_error h]; rfl

/-- A line that brings hits along goes the way of one that does not. -/
theorem apply_eq_rejoined (x : Substitution) (o : Outcome) (m : Machine) :
    x.apply e b o m = rejoined o (x.apply e b (Outcome.initial o.text) m) := by
  rw [← bind_rejoin, ← apply_rejoin, rejoin_initial]

theorem applyAll_eq_rejoined (xs : List Substitution) (o : Outcome) (m : Machine) :
    applyAll e b xs o m = rejoined o (applyAll e b xs (Outcome.initial o.text) m) := by
  rw [← bind_rejoin, ← applyAll_rejoin, rejoin_initial]

theorem apply_first_initial (xs : List Substitution) (text : String) :
    (first xs).apply e b (Outcome.initial text) = applyFirst e b xs (Outcome.initial text) := by
  rw [apply_first]
  simp [Outcome.initial, Outcome.forceMiss, Outcome.rejoin]

/-! ## From attempt to attempt -/

/-- What holds of attempts and of what comes of them, when it holds of each rule that is tried, and of
what is tried on a text and then on what has become of the text. -/
structure Sequential (e : Evaluator) (b : Bindings)
    (P : String → Machine → List Attempt → EStateM.Result Failure Machine Outcome → Prop) :
    Prop where
  rule : ∀ p : Attempt,
    P p.text p.machine [p] (p.rule.apply e b (Outcome.initial p.text) p.machine)
  nil : ∀ text m, P text m [] (.ok (Outcome.initial text) m)
  seq : ∀ text m ps o m₁ qs r,
    P text m ps (.ok o m₁) → P o.text m₁ qs r → P text m (ps ++ qs) (rejoined o r)

namespace Sequential

variable {P : String → Machine → List Attempt → EStateM.Result Failure Machine Outcome → Prop}

mutual

/-- Induction along the rules that are tried. -/
theorem attempts (h : Sequential e b P) (x : Substitution) (text : String) (m : Machine) :
    P text m (x.attempts e b text m) (x.apply e b (Outcome.initial text) m) := by
  match x with
  | .rule r =>
    rw [Substitution.attempts, apply]
    exact h.rule ⟨r, text, m⟩
  | .first xs =>
    rw [Substitution.attempts, apply_first_initial]
    exact h.attemptsFirst xs text m
  | .all xs =>
    rw [Substitution.attempts, apply]
    exact h.attemptsAll xs text m

theorem attemptsFirst (h : Sequential e b P) (xs : List Substitution) (text : String)
    (m : Machine) :
    P text m (Substitution.attemptsFirst e b xs text m)
      (applyFirst e b xs (Outcome.initial text) m) := by
  match xs with
  | [] => exact h.nil text m
  | x :: xs =>
    have hx := h.attempts x text m
    cases hrun : x.apply e b (Outcome.initial text) m with
    | error f m₁ => rwa [attemptsFirst_of_error hrun, applyFirst_of_error hrun, ← hrun]
    | ok o m₁ =>
      obtain ⟨hit, t⟩ := o
      cases hit with
      | true => rwa [attemptsFirst_of_hit hrun, applyFirst_of_hit hrun, ← hrun]
      | false =>
        rw [hrun] at hx
        rw [attemptsFirst_of_miss hrun, applyFirst_of_miss hrun]
        -- There is no hit of the member to be added to those of the others.
        have hrest : rejoined ⟨false, t⟩ (applyFirst e b xs (Outcome.initial t) m₁) =
            applyFirst e b xs ⟨false, t⟩ m₁ := by
          show rejoined _ (applyFirst e b xs ⟨false, t⟩ m₁) = _
          cases applyFirst e b xs ⟨false, t⟩ m₁ <;> rfl
        rw [← hrest]
        exact h.seq text m _ ⟨false, t⟩ m₁ _ _ hx (h.attemptsFirst xs t m₁)

theorem attemptsAll (h : Sequential e b P) (xs : List Substitution) (text : String)
    (m : Machine) :
    P text m (Substitution.attemptsAll e b xs text m)
      (applyAll e b xs (Outcome.initial text) m) := by
  match xs with
  | [] => exact h.nil text m
  | x :: xs =>
    have hx := h.attempts x text m
    cases hrun : x.apply e b (Outcome.initial text) m with
    | error f m₁ => rwa [attemptsAll_of_error hrun, applyAll_of_error hrun, ← hrun]
    | ok o m₁ =>
      rw [hrun] at hx
      rw [attemptsAll_of_ok hrun, applyAll_of_ok hrun, applyAll_eq_rejoined]
      exact h.seq text m _ o m₁ _ _ hx (h.attemptsAll xs o.text m₁)

end

end Sequential

/-- The rules of attempts, as the members of a chain. -/
def rulesOf (ps : List Attempt) : List Substitution := ps.map fun p => .rule p.rule

theorem sequential_applyAll (e : Evaluator) (b : Bindings) : Sequential e b fun text m ps r =>
    applyAll e b (rulesOf ps) (Outcome.initial text) m = r where
  rule p := by
    rw [rulesOf, List.map_singleton]
    simp [applyAll, apply]
  nil _ _ := rfl
  seq text m ps o m₁ qs r hps hqs := by
    have hrules : rulesOf (ps ++ qs) = rulesOf ps ++ rulesOf qs := List.map_append
    rw [hrules, applyAll_append, bind_of_ok hps, applyAll_eq_rejoined, hqs]

/-- A substitution does to a line what the rules that it tries do, one after the other. -/
theorem apply_eq_applyAll (x : Substitution) (o : Outcome) (m : Machine) :
    x.apply e b o m = applyAll e b (rulesOf (x.attempts e b o.text m)) o m := by
  have hchain := (sequential_applyAll e b).attempts x o.text m
  rw [apply_eq_rejoined, applyAll_eq_rejoined, hchain]

theorem sequential_hit (e : Evaluator) (b : Bindings) : Sequential e b fun _ _ ps r =>
    ∀ o m', r = .ok o m' → (o.hit = true ↔ ∃ p ∈ ps, p.Succeeds e b) where
  rule p o m' h := by
    simp only [List.mem_singleton, exists_eq_left]
    exact Attempt.hit_iff h
  nil text m o m' h := by
    cases h
    simp [Outcome.initial]
  seq text m ps o₁ m₁ qs r hps hqs o m' h := by
    cases r with
    | error f m₂ => cases h
    | ok o₂ m₂ =>
      cases h
      have hfirst := hps o₁ m₁ rfl
      have hrest := hqs o₂ _ rfl
      simp only [Outcome.rejoin, Bool.or_eq_true, hfirst, hrest, List.mem_append, or_and_right,
        exists_or]

/-- A substitution hits exactly when a rule that it tries succeeds. -/
theorem hit_iff {x : Substitution} (h : x.apply e b (Outcome.initial text) m = .ok o m') :
    o.hit = true ↔ ∃ p ∈ x.attempts e b text m, p.Succeeds e b :=
  (sequential_hit e b).attempts x text m o m' h

/-- What becomes of a hit that a line brings along to a substitution. -/
structure KeepsHits (x : Substitution) (e : Evaluator) (b : Bindings) (text : String)
    (m : Machine) : Prop where
  /-- It makes no difference to what fails, -/
  fails : ∀ h f m', x.apply e b ⟨h, text⟩ m = .error f m' ↔
    x.apply e b (Outcome.initial text) m = .error f m'
  /-- nor to the text, and it is not lost. -/
  gives : ∀ h o m', x.apply e b (Outcome.initial text) m = .ok o m' →
    x.apply e b ⟨h, text⟩ m = .ok ⟨h || o.hit, o.text⟩ m'
  /-- In either case the same rules are tried, and nothing else is done than what they do. -/
  tries : ∀ h, x.apply e b ⟨h, text⟩ m =
    applyAll e b (rulesOf (x.attempts e b text m)) ⟨h, text⟩ m
  /-- A hit is added exactly when one of them matches and computes all its replacements. -/
  hits : ∀ o m', x.apply e b (Outcome.initial text) m = .ok o m' →
    (o.hit = true ↔ ∃ p ∈ x.attempts e b text m, p.Succeeds e b)

/-- **Hits that a line brings along make no difference**, whatever the tree of rules and however
groups and chains are nested in it. -/
theorem keepsHits (x : Substitution) (e : Evaluator) (b : Bindings) (text : String) (m : Machine) :
    x.KeepsHits e b text m where
  fails h f m' := by
    constructor
    · intro hfails
      rw [apply_eq_rejoined] at hfails
      cases hrun : x.apply e b (Outcome.initial text) m with
      | error f₁ m₁ => rwa [hrun] at hfails
      | ok o m₁ =>
        rw [hrun] at hfails
        cases hfails
    · intro hfails
      rw [apply_eq_rejoined, hfails]
      rfl
  gives h o m' hrun := by
    rw [apply_eq_rejoined, hrun]
    rfl
  tries h := apply_eq_applyAll x ⟨h, text⟩ m
  hits _ _ := hit_iff

/-! ## The first that hits -/

/-- Members miss a text in turn, and each leaves it as it is. -/
inductive Misses (e : Evaluator) (b : Bindings) (text : String) :
    List Substitution → Machine → Machine → Prop
  | nil {m : Machine} : Misses e b text [] m m
  | cons {x : Substitution} {xs : List Substitution} {m m₁ m' : Machine}
      (h : x.apply e b (Outcome.initial text) m = .ok (Outcome.initial text) m₁)
      (rest : Misses e b text xs m₁ m') : Misses e b text (x :: xs) m m'

section Missing

variable {before : List Substitution}

/-- What stands behind members that miss comes to the text as if they were not there. -/
theorem Misses.applyFirst_append (h : Misses e b text before m m') (xs : List Substitution) :
    applyFirst e b (before ++ xs) (Outcome.initial text) m =
      applyFirst e b xs (Outcome.initial text) m' := by
  induction h with
  | nil => rfl
  | cons h _ ih => rw [List.cons_append, applyFirst_of_miss h, ← ih, Outcome.initial]

theorem Misses.attemptsFirst_append (h : Misses e b text before m m') (xs : List Substitution) :
    attemptsFirst e b (before ++ xs) text m =
      attemptsFirst e b before text m ++ attemptsFirst e b xs text m' := by
  induction h with
  | nil => rfl
  | cons h _ ih =>
    rw [List.cons_append, attemptsFirst_of_miss h, attemptsFirst_of_miss h, ih, List.append_assoc]

theorem Misses.apply_eq (h : Misses e b text before m m') :
    (first before).apply e b (Outcome.initial text) m = .ok (Outcome.initial text) m' := by
  have happend := h.applyFirst_append []
  rw [List.append_nil] at happend
  rw [apply_first_initial, happend, applyFirst]
  rfl

theorem Misses.not_succeeds (h : Misses e b text before m m') :
    ∀ p ∈ attemptsFirst e b before text m, ¬p.Succeeds e b := by
  intro p hp hsucceeds
  cases (hit_iff h.apply_eq).mpr ⟨p, hp, hsucceeds⟩

end Missing

/-- A group comes to a member `x` that hits, when those before it have missed. -/
structure FirstToHit (e : Evaluator) (b : Bindings) (text : String) (m : Machine)
    (before : List Substitution) (x : Substitution) (m₁ : Machine) (u : String) (m' : Machine) :
    Prop where
  missed : Misses e b text before m m₁
  /-- The member works on the text as it was in the beginning. -/
  hits : x.apply e b (Outcome.initial text) m₁ = .ok ⟨true, u⟩ m'
  /-- What it leaves is what the group leaves, whatever stands behind it, -/
  result : ∀ others h,
    (first (before ++ x :: others)).apply e b ⟨h, text⟩ m = .ok ⟨true, u⟩ m'
  /-- of which no rule is tried. Of those tried before it, none has replaced anything. -/
  tried : ∀ others, (first (before ++ x :: others)).attempts e b text m =
    attemptsFirst e b before text m ++ x.attempts e b text m₁
  vain : ∀ p ∈ attemptsFirst e b before text m, ¬p.Succeeds e b

theorem Misses.firstToHit {before : List Substitution} {x : Substitution}
    (hmissed : Misses e b text before m m₁)
    (hhit : x.apply e b (Outcome.initial text) m₁ = .ok ⟨true, u⟩ m') :
    FirstToHit e b text m before x m₁ u m' where
  missed := hmissed
  hits := hhit
  result others h := by
    have hgroup : (first (before ++ x :: others)).apply e b (Outcome.initial text) m =
        .ok ⟨true, u⟩ m' := by
      rw [apply_first_initial, hmissed.applyFirst_append, applyFirst_of_hit hhit]
    rw [apply_eq_rejoined, hgroup, rejoined, Outcome.rejoin, Bool.or_true]
  tried others := by
    rw [attempts, hmissed.attemptsFirst_append, attemptsFirst_of_hit hhit]
  vain := hmissed.not_succeeds

/-- What becomes of a group: its members miss the text one after the other, or up to one that hits. -/
def Decided (e : Evaluator) (b : Bindings) (text : String) (m : Machine)
    (xs : List Substitution) : Prop :=
  (∃ m', Misses e b text xs m m') ∨
    ∃ before x after m₁ u m', xs = before ++ x :: after ∧ Misses e b text before m m₁ ∧
      x.apply e b (Outcome.initial text) m₁ = .ok ⟨true, u⟩ m'

/-- A member that misses does not decide. -/
theorem Decided.cons {x : Substitution} {xs : List Substitution}
    (h : x.apply e b (Outcome.initial text) m = .ok (Outcome.initial text) m₁)
    (hrest : Decided e b text m₁ xs) : Decided e b text m (x :: xs) := by
  rcases hrest with ⟨m', hmissed⟩ | ⟨before, y, after, m₂, u, m', rfl, hmissed, hhit⟩
  · exact .inl ⟨m', .cons h hmissed⟩
  · exact .inr ⟨x :: before, y, after, m₂, u, m', rfl, .cons h hmissed, hhit⟩

/-- A substitution hits a text or leaves it as it is. -/
def HitsOrLeaves (x : Substitution) (e : Evaluator) (b : Bindings) (text : String)
    (m : Machine) : Prop :=
  ∃ o m', x.apply e b (Outcome.initial text) m = .ok o m' ∧
    (o.hit = false → o = Outcome.initial text)

theorem sequential_smooth (e : Evaluator) (b : Bindings) : Sequential e b fun text _ ps r =>
    (∀ p ∈ ps, p.Smooth e b) →
      ∃ o m', r = .ok o m' ∧ (o.hit = false → o = Outcome.initial text) where
  rule p hsmooth := (hsmooth p List.mem_cons_self).exists_apply
  nil text m _ := ⟨Outcome.initial text, m, rfl, fun _ => rfl⟩
  seq text m ps o₁ m₁ qs r hps hqs hsmooth := by
    obtain ⟨o₁', m₁', hrun, hmiss₁⟩ := hps fun p hp => hsmooth p (List.mem_append_left _ hp)
    cases hrun
    obtain ⟨o₂, m₂, rfl, hmiss₂⟩ := hqs fun p hp => hsmooth p (List.mem_append_right _ hp)
    refine ⟨o₂.rejoin o₁, m₂, rfl, fun hmiss => ?_⟩
    -- Where there is no hit in the end there has been none on the way.
    obtain ⟨hfirst, hrest⟩ := Bool.or_eq_false_iff.mp hmiss
    rw [hmiss₂ hrest, hmiss₁ hfirst]
    rfl

/-- Where nothing fails, what misses leaves the text as it is. -/
theorem hitsOrLeaves_of_smooth {x : Substitution}
    (h : ∀ p ∈ x.attempts e b text m, p.Smooth e b) : x.HitsOrLeaves e b text m :=
  (sequential_smooth e b).attempts x text m h

/-- Where nothing fails, the members of a group miss a text in turn, up to the end or to one that
hits. -/
theorem decided_of_smooth {xs : List Substitution}
    (h : ∀ p ∈ attemptsFirst e b xs text m, p.Smooth e b) : Decided e b text m xs := by
  induction xs generalizing m with
  | nil => exact .inl ⟨m, .nil⟩
  | cons x xs ih =>
    obtain ⟨⟨hit, t⟩, m₁, hx, hmiss⟩ := hitsOrLeaves_of_smooth fun p hp =>
      h p (List.mem_append_left _ hp)
    cases hit with
    | true => exact .inr ⟨[], x, xs, m, t, m₁, rfl, .nil, hx⟩
    | false =>
      rw [hmiss rfl] at hx
      rw [attemptsFirst_of_miss hx] at h
      exact (ih fun p hp => h p (List.mem_append_right _ hp)).cons hx

/-- What a substitution does to a text as long as nothing fails. -/
structure FirstHitWins (x : Substitution) (e : Evaluator) (b : Bindings) (text : String)
    (m : Machine) : Prop where
  /-- It comes to an end, and leaves exactly the text when it misses. -/
  leaves : ∃ o m', x.apply e b (Outcome.initial text) m = .ok o m' ∧ (o.hit = false → o.text = text)
  /-- A group leaves the text when all its members miss it as it was in the beginning, and else what
  the first of them leaves that hits. -/
  group : ∀ xs, x = first xs →
    (∃ m', Misses e b text xs m m' ∧
      ∀ h, (first xs).apply e b ⟨h, text⟩ m = .ok ⟨h, text⟩ m') ∨
    ∃ before y after m₁ u m', xs = before ++ y :: after ∧ FirstToHit e b text m before y m₁ u m'

/-- **The first member that hits wins**, and as long as nothing fails, those before it have left no
trace in the text and those behind it are not asked. -/
theorem first_hit_wins {x : Substitution}
    (hsmooth : ∀ p ∈ x.attempts e b text m, p.Smooth e b) : x.FirstHitWins e b text m where
  leaves := by
    obtain ⟨o, m', hrun, hmiss⟩ := hitsOrLeaves_of_smooth hsmooth
    exact ⟨o, m', hrun, fun h => by rw [hmiss h, Outcome.initial]⟩
  group := by
    rintro xs rfl
    rcases decided_of_smooth hsmooth with
      ⟨m', hmissed⟩ | ⟨before, y, after, m₁, u, m', rfl, hmissed, hhit⟩
    · refine .inl ⟨m', hmissed, fun h => ?_⟩
      rw [apply_eq_rejoined, hmissed.apply_eq, rejoined, Outcome.rejoin, Outcome.initial,
        Bool.or_false]
    · exact .inr ⟨before, y, after, m₁, u, m', rfl, hmissed.firstToHit hhit⟩

/-! ## A group with an invalid pattern behind a hit -/

/-- A chain that misses "a", a rule that hits it, and a rule whose pattern cannot be read. -/
def guardedMembers : List Substitution :=
  [.all [.rule ⟨.plain, "b", "c"⟩, .rule ⟨.plain, "c", "d"⟩], .rule ⟨.plain, "a", "b"⟩,
    .rule ⟨.regex, "(", "c"⟩]

/-- The rule whose pattern cannot be read is not tried. -/
theorem first_hit_wins_guarded :
    (∀ p ∈ (first guardedMembers).attempts namesOnly {} "a" {}, p.Smooth namesOnly {}) ∧
      (first guardedMembers).FirstHitWins namesOnly {} "a" {} := by
  have hattempts : (first guardedMembers).attempts namesOnly {} "a" {} =
      [⟨⟨.plain, "b", "c"⟩, "a", {}⟩, ⟨⟨.plain, "c", "d"⟩, "a", {}⟩,
        ⟨⟨.plain, "a", "b"⟩, "a", {}⟩] := rfl
  have hsmooth : ∀ p ∈ (first guardedMembers).attempts namesOnly {} "a" {},
      p.Smooth namesOnly {} := by
    rw [hattempts]
    simp only [List.forall_mem_cons]
    exact ⟨⟨[], {}, [], {}, rfl, rfl⟩, ⟨[], {}, [], {}, rfl, rfl⟩,
      ⟨[⟨0, 1, [['a']]⟩], {}, ["b"], {}, rfl, rfl⟩, nofun⟩
  exact ⟨hsmooth, first_hit_wins hsmooth⟩

end Substitution

end Stencil
