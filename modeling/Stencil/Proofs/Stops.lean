import Stencil.Proofs.Rendering
/-!
# Stencil.Proofs.Stops -- a line on its way through the rules

A line goes from rule to rule. At each of them the matches of the pattern are looked for; where
there are some, their replacements are computed; a rule that has replaced something ends its group.
The stops of a line are the rules that it comes to on its way, each with what has become of the line
by then. Two things can go wrong at a stop. A pattern that fails ends the way, and nothing else does.
A replacement that fails leaves a diagnostic for a text, which goes on to what is behind the stop.
-/

namespace Stencil

open Stencil.Expr

variable {e : Evaluator} {b : Bindings} {m m' m₁ m₂ : Machine} {f : Failure} {o o' : Outcome}
  {t : String}

/-! ## What a rule does -/

/-- Replacements are computed up to the first that fails. -/
theorem replaceHits_of_error {replacement : Hit → Act String} {before after : List Hit} {h : Hit}
    {texts : List String} (hbefore : before.mapM replacement m₁ = .ok texts m₂)
    (hfail : replacement h m₂ = .error f m') (pos : Nat) (rest : List Char) :
    replaceHits replacement pos rest (before ++ h :: after) m₁ = .error f m' := by
  induction before generalizing texts m₁ pos rest with
  | nil =>
    rw [List.mapM_nil] at hbefore
    cases hbefore
    rw [List.nil_append, replaceHits, bind_of_error hfail]
  | cons g before ih =>
    obtain ⟨new, m₃, news, hnew, hnews, -⟩ := mapM_cons_eq_ok hbefore
    rw [List.cons_append, replaceHits, bind_of_ok hnew, bind_of_error (ih hnews _ _)]

namespace Rule

/-- The matches of the pattern of a rule in a text. -/
def matchesIn (r : Rule) (e : Evaluator) (b : Bindings) (text : String) : Act (List Hit) := do
  let pattern ← e.resolve b r.pattern
  Expr.ofExcept (r.mode.hits pattern.toList text.toList)

/-- What a rule makes of a line when it knows the matches. -/
def respond (r : Rule) (e : Evaluator) (b : Bindings) (o : Outcome) : List Hit → Act Outcome
  | [] => return o.asMiss
  | h :: hs =>
    tryCatch
      (do
        let text ← replaceHits (r.replacementFor e b) 0 o.text.toList (h :: hs)
        return o.asHit (some (String.ofList text)))
      fun f => return o.asMiss (some (r.failedText f))

/-- In a text the matches of a rule are found, but for one of them the replacement fails, when those
before it have been replaced. -/
def ReplacementFails (r : Rule) (e : Evaluator) (b : Bindings) (text : String) (m : Machine)
    (f : Failure) (m' : Machine) : Prop :=
  ∃ before h after texts m₁ m₂, r.matchesIn e b text m = .ok (before ++ h :: after) m₁ ∧
    before.mapM (r.replacementFor e b) m₁ = .ok texts m₂ ∧ r.replacementFor e b h m₂ = .error f m'

variable {r : Rule}

theorem apply_eq_matchesIn_bind (r : Rule) (e : Evaluator) (b : Bindings) (o : Outcome) :
    r.apply e b o = r.matchesIn e b o.text >>= r.respond e b o := by
  rw [apply, matchesIn, bind_assoc]
  congr
  funext pattern
  congr
  funext hits
  cases hits <;> rfl

section Responding

variable {h : Hit} {hs : List Hit} {text : List Char}

theorem respond_of_ok (htext : replaceHits (r.replacementFor e b) 0 o.text.toList (h :: hs) m =
    .ok text m') : r.respond e b o (h :: hs) m = .ok ⟨true, String.ofList text⟩ m' :=
  tryCatch_of_ok (bind_of_ok htext)

theorem respond_of_error (hfail : replaceHits (r.replacementFor e b) 0 o.text.toList (h :: hs) m =
    .error f m') : r.respond e b o (h :: hs) m = .ok ⟨o.hit, r.failedText f⟩ m' :=
  tryCatch_of_error (bind_of_error hfail)

end Responding

/-- What a rule makes of a line does not fail. -/
theorem exists_respond (r : Rule) (hits : List Hit) (m : Machine) :
    ∃ o' m', r.respond e b o hits m = .ok o' m' := by
  cases hits with
  | nil => exact ⟨o, m, rfl⟩
  | cons h hs =>
    cases htext : replaceHits (r.replacementFor e b) 0 o.text.toList (h :: hs) m with
    | ok text m' => exact ⟨_, m', respond_of_ok htext⟩
    | error f m' => exact ⟨_, m', respond_of_error htext⟩

/-- A rule whose pattern does not fail hands on an outcome. -/
theorem exists_apply (r : Rule) (o : Outcome) {hits : List Hit}
    (h : r.matchesIn e b o.text m = .ok hits m₁) : ∃ o' m', r.apply e b o m = .ok o' m' := by
  obtain ⟨o', m', hrespond⟩ := r.exists_respond (e := e) (b := b) (o := o) hits m₁
  exact ⟨o', m', by rw [apply_eq_matchesIn_bind, bind_of_ok h, hrespond]⟩

/-- A rule fails exactly where its pattern does. -/
theorem apply_eq_error_iff (r : Rule) (o : Outcome) :
    r.apply e b o m = .error f m' ↔ r.matchesIn e b o.text m = .error f m' := by
  rw [apply_eq_matchesIn_bind, bind_eq_error_iff, or_iff_left]
  rintro ⟨hits, m₁, -, hrespond⟩
  obtain ⟨o', m₂, hok⟩ := r.exists_respond (e := e) (b := b) (o := o) hits m₁
  rw [hok] at hrespond
  cases hrespond

/-- A rule without matches hands on what it is given. -/
theorem apply_of_no_match (h : r.matchesIn e b o.text m = .ok [] m') :
    r.apply e b o m = .ok o m' := by
  rw [apply_eq_matchesIn_bind, bind_of_ok h]
  rfl

/-- A replacement that fails leaves the diagnostic and nothing else of the line. -/
theorem apply_of_failing (h : r.ReplacementFails e b o.text m f m') :
    r.apply e b o m = .ok ⟨o.hit, r.failedText f⟩ m' := by
  obtain ⟨before, h, after, texts, m₁, m₂, hmatches, hbefore, hfail⟩ := h
  rw [apply_eq_matchesIn_bind, bind_of_ok hmatches]
  have hreplace : replaceHits (r.replacementFor e b) 0 o.text.toList (before ++ h :: after) m₁ =
      .error f m' := replaceHits_of_error hbefore hfail 0 o.text.toList
  obtain ⟨g, gs, hcons⟩ : ∃ g gs, before ++ h :: after = g :: gs := by
    cases before with
    | nil => exact ⟨h, after, rfl⟩
    | cons g before => exact ⟨g, before ++ h :: after, rfl⟩
  rw [hcons] at hreplace ⊢
  exact respond_of_error hreplace

theorem respond_rejoin (r : Rule) (o earlier : Outcome) (hits : List Hit) :
    r.respond e b (o.rejoin earlier) hits =
      do return (← r.respond e b o hits).rejoin earlier := by
  cases hits with
  | nil => rfl
  | cons h hs =>
    funext m
    cases htext : replaceHits (r.replacementFor e b) 0 o.text.toList (h :: hs) m with
    | ok text m' =>
      rw [bind_of_ok (respond_of_ok htext), respond_of_ok (o := o.rejoin earlier) htext,
        Outcome.rejoin, Bool.or_true, pure_apply]
    | error f m' =>
      rw [bind_of_ok (respond_of_error htext), respond_of_error (o := o.rejoin earlier) htext]
      rfl

theorem apply_rejoin (r : Rule) (o earlier : Outcome) :
    r.apply e b (o.rejoin earlier) = do return (← r.apply e b o).rejoin earlier := by
  have hrespond := funext (r.respond_rejoin (e := e) (b := b) o earlier)
  rw [apply_eq_matchesIn_bind, apply_eq_matchesIn_bind, hrespond, bind_assoc]
  rfl

end Rule

/-! ## Hits that came before -/

namespace Substitution

mutual

/-- A hit before a substitution makes no difference to what the substitution does to the text, and is
not lost. -/
theorem apply_rejoin (earlier : Outcome) :
    ∀ (t : Substitution) (o : Outcome),
      t.apply e b (o.rejoin earlier) = do return (← t.apply e b o).rejoin earlier
  | .rule r, o => by
    rw [apply, apply]
    exact r.apply_rejoin o earlier
  | .first [], o => by simp [apply, Outcome.asMiss, Outcome.rejoin]
  -- A group begins without the hits before it, and takes them up again at its end.
  | .first (x :: xs), o => by
    rw [apply, apply, bind_assoc]
    simp [Outcome.forceMiss, Outcome.rejoin, Bool.or_assoc]
  | .all xs, o => by
    rw [apply, apply]
    exact applyAll_rejoin earlier xs o

theorem applyAll_rejoin (earlier : Outcome) :
    ∀ (ts : List Substitution) (o : Outcome),
      applyAll e b ts (o.rejoin earlier) = do return (← applyAll e b ts o).rejoin earlier
  | [], o => by simp [applyAll]
  | t :: ts, o => by
    rw [applyAll, applyAll, apply_rejoin earlier t o, bind_assoc, bind_assoc]
    simp [applyAll_rejoin earlier ts]

end

/-! ## What a member leaves to those behind it -/

variable {x : Substitution} {xs : List Substitution}

theorem applyFirst_of_error (h : x.apply e b o m = .error f m') :
    applyFirst e b (x :: xs) o m = .error f m' := by
  rw [applyFirst, bind_of_error h]

theorem applyFirst_of_hit (h : x.apply e b o m = .ok ⟨true, t⟩ m') :
    applyFirst e b (x :: xs) o m = .ok ⟨true, t⟩ m' := by
  rw [applyFirst, bind_of_ok h]
  rfl

theorem applyFirst_of_miss (h : x.apply e b o m = .ok ⟨false, t⟩ m') :
    applyFirst e b (x :: xs) o m = applyFirst e b xs ⟨false, t⟩ m' := by
  rw [applyFirst, bind_of_ok h]
  rfl

theorem applyAll_of_error (h : x.apply e b o m = .error f m') :
    applyAll e b (x :: xs) o m = .error f m' := by
  rw [applyAll, bind_of_error h]

theorem applyAll_of_ok (h : x.apply e b o m = .ok o' m') :
    applyAll e b (x :: xs) o m = applyAll e b xs o' m' := by
  rw [applyAll, bind_of_ok h]

end Substitution

/-! ## What a group does -/

section Groups

variable {r : Rule} {rs : List Rule}

/-- A rule that fails ends its group. -/
theorem apply_groupOf_of_error (h : r.apply e b o.forceMiss m = .error f m') :
    (groupOf (r :: rs)).apply e b o m = .error f m' := by
  rw [apply_groupOf]
  exact bind_of_error (Substitution.applyFirst_of_error h)

/-- A rule that has replaced something ends its group. -/
theorem apply_groupOf_of_hit (h : r.apply e b o.forceMiss m = .ok ⟨true, t⟩ m') :
    (groupOf (r :: rs)).apply e b o m = .ok ⟨true, t⟩ m' := by
  rw [apply_groupOf, List.map_cons, bind_of_ok (Substitution.applyFirst_of_hit (x := .rule r) h),
    Outcome.rejoin, Bool.or_true, pure_apply]

/-- Otherwise the rest of the group goes on with the text that the rule has left. -/
theorem apply_groupOf_of_miss (h : r.apply e b o.forceMiss m = .ok ⟨false, t⟩ m') :
    (groupOf (r :: rs)).apply e b o m = (groupOf rs).apply e b ⟨o.hit, t⟩ m' := by
  rw [apply_groupOf, apply_groupOf, List.map_cons]
  exact bind_congr_left (Substitution.applyFirst_of_miss h)

end Groups

/-! ## Stops -/

/-- A stop of a line: the rule that it has come to, the rules behind that one in the same group and
the groups after it, what has become of the line by then, and the machine. -/
structure Stop where
  rule : Rule
  others : List Rule
  later : List (List Rule)
  outcome : Outcome
  machine : Machine

namespace Stop

/-- The groups from a stop on. -/
def groups (p : Stop) : List (List Rule) := (p.rule :: p.others) :: p.later

/-- The groups behind the rule of a stop. -/
def behind (p : Stop) : List (List Rule) := p.others :: p.later

end Stop

/-- A line that goes through groups of rules comes to a stop. -/
inductive Comes (e : Evaluator) (b : Bindings) :
    List (List Rule) → Outcome → Machine → Stop → Prop
  | here {r : Rule} {rs : List Rule} {gs : List (List Rule)} {o : Outcome} {m : Machine} :
      Comes e b ((r :: rs) :: gs) o m ⟨r, rs, gs, o, m⟩
  /-- It goes on behind a rule that has not replaced anything, -/
  | miss {r : Rule} {rs : List Rule} {gs : List (List Rule)} {o : Outcome} {t : String}
      {m m' : Machine} {p : Stop} (h : r.apply e b o.forceMiss m = .ok ⟨false, t⟩ m')
      (hp : Comes e b (rs :: gs) ⟨o.hit, t⟩ m' p) : Comes e b ((r :: rs) :: gs) o m p
  /-- behind the group of one that has, -/
  | hit {r : Rule} {rs : List Rule} {gs : List (List Rule)} {o : Outcome} {t : String}
      {m m' : Machine} {p : Stop} (h : r.apply e b o.forceMiss m = .ok ⟨true, t⟩ m')
      (hp : Comes e b gs ⟨true, t⟩ m' p) : Comes e b ((r :: rs) :: gs) o m p
  /-- and behind a group without rules. -/
  | empty {gs : List (List Rule)} {o : Outcome} {m : Machine} {p : Stop}
      (hp : Comes e b gs o m p) : Comes e b ([] :: gs) o m p

/-- A line only comes to rules of the groups. -/
theorem Comes.rule_mem {gs : List (List Rule)} {p : Stop} (h : Comes e b gs o m p) :
    p.rule ∈ gs.flatten := by
  induction h with
  | here => exact List.mem_cons_self
  | miss _ _ ih => exact List.mem_cons_of_mem _ ih
  | hit _ _ ih => exact List.mem_append_right _ ih
  | empty _ ih => exact ih

section Stops

variable {g : List Rule} {gs : List (List Rule)} {p : Stop}

theorem applyAll_groups_cons (g : List Rule) (gs : List (List Rule)) (o : Outcome) :
    Substitution.applyAll e b ((g :: gs).map groupOf) o =
      (groupOf g).apply e b o >>= Substitution.applyAll e b (gs.map groupOf) := by
  rw [List.map_cons, Substitution.applyAll]

/-- A stop whose rule has not replaced anything passes its text on to what is behind it. -/
theorem applyAll_of_miss {r : Rule} {rs : List Rule}
    (h : r.apply e b o.forceMiss m = .ok ⟨false, t⟩ m') :
    Substitution.applyAll e b (((r :: rs) :: gs).map groupOf) o m =
      Substitution.applyAll e b ((rs :: gs).map groupOf) ⟨o.hit, t⟩ m' := by
  rw [applyAll_groups_cons, applyAll_groups_cons]
  exact bind_congr_left (apply_groupOf_of_miss h)

theorem applyAll_of_hit {r : Rule} {rs : List Rule}
    (h : r.apply e b o.forceMiss m = .ok ⟨true, t⟩ m') :
    Substitution.applyAll e b (((r :: rs) :: gs).map groupOf) o m =
      Substitution.applyAll e b (gs.map groupOf) ⟨true, t⟩ m' := by
  rw [applyAll_groups_cons, bind_of_ok (apply_groupOf_of_hit h)]

theorem applyAll_of_empty (gs : List (List Rule)) (o : Outcome) :
    Substitution.applyAll e b (([] :: gs).map groupOf) o =
      Substitution.applyAll e b (gs.map groupOf) o := by
  rw [applyAll_groups_cons, apply_groupOf_nil, pure_bind]

/-- What comes of a line is decided by the groups from a stop on. -/
theorem applyAll_of_comes (h : Comes e b gs o m p) :
    Substitution.applyAll e b (gs.map groupOf) o m =
      Substitution.applyAll e b (p.groups.map groupOf) p.outcome p.machine := by
  induction h with
  | here => rfl
  | miss h _ ih => rw [applyAll_of_miss h, ih]
  | hit h _ ih => rw [applyAll_of_hit h, ih]
  | empty _ ih => rw [applyAll_of_empty, ih]

/-- Induction along the way of a line: what holds of groups without rules, and of groups that begin
with a rule if it holds of what the rule leaves to the groups behind it, holds of all groups. -/
theorem along_way {P : List (List Rule) → Outcome → Machine → Prop}
    (hnil : ∀ o m, P [] o m)
    (hempty : ∀ gs o m, P gs o m → P ([] :: gs) o m)
    (hrule : ∀ (r : Rule) rs gs o m,
      (∀ t m', r.apply e b o.forceMiss m = .ok ⟨false, t⟩ m' → P (rs :: gs) ⟨o.hit, t⟩ m') →
      (∀ t m', r.apply e b o.forceMiss m = .ok ⟨true, t⟩ m' → P gs ⟨true, t⟩ m') →
      P ((r :: rs) :: gs) o m) (gs : List (List Rule)) (o : Outcome) (m : Machine) : P gs o m := by
  induction gs generalizing o m with
  | nil => exact hnil o m
  | cons g gs ih =>
    induction g generalizing o m with
    | nil => exact hempty gs o m (ih o m)
    | cons r rs ihg =>
      exact hrule r rs gs o m (fun t m' _ => ihg ⟨o.hit, t⟩ m') fun t m' _ => ih ⟨true, t⟩ m'

/-- A line fails exactly where it comes to a rule whose pattern fails. -/
theorem applyAll_eq_error_iff :
    Substitution.applyAll e b (gs.map groupOf) o m = .error f m' ↔
      ∃ p, Comes e b gs o m p ∧ p.rule.matchesIn e b p.outcome.text p.machine = .error f m' := by
  constructor
  · refine along_way (e := e) (b := b) (P := fun gs o m =>
      Substitution.applyAll e b (gs.map groupOf) o m = .error f m' → ∃ p, Comes e b gs o m p ∧
        p.rule.matchesIn e b p.outcome.text p.machine = .error f m') ?_ ?_ ?_ gs o m
    · intro o m h
      cases h
    · intro gs o m ih h
      rw [applyAll_of_empty] at h
      obtain ⟨p, hp, hfail⟩ := ih h
      exact ⟨p, .empty hp, hfail⟩
    · intro r rs gs o m hmiss hhit h
      cases hr : r.apply e b o.forceMiss m with
      | error f₁ m₁ =>
        rw [applyAll_groups_cons, bind_of_error (apply_groupOf_of_error hr)] at h
        cases h
        have hpattern : r.matchesIn e b o.text m = .error f m' :=
          (r.apply_eq_error_iff o.forceMiss).mp hr
        exact ⟨⟨r, rs, gs, o, m⟩, .here, hpattern⟩
      | ok o₁ m₁ =>
        obtain ⟨hit, t⟩ := o₁
        cases hit with
        | false =>
          rw [applyAll_of_miss hr] at h
          obtain ⟨p, hp, hfail⟩ := hmiss t m₁ hr h
          exact ⟨p, .miss hr hp, hfail⟩
        | true =>
          rw [applyAll_of_hit hr] at h
          obtain ⟨p, hp, hfail⟩ := hhit t m₁ hr h
          exact ⟨p, .hit hr hp, hfail⟩
  · rintro ⟨p, hp, hfail⟩
    have hr : p.rule.apply e b p.outcome.forceMiss p.machine = .error f m' :=
      (p.rule.apply_eq_error_iff p.outcome.forceMiss).mpr hfail
    rw [applyAll_of_comes hp, Stop.groups, applyAll_groups_cons,
      bind_of_error (apply_groupOf_of_error hr)]

/-- A line in which no rule that it comes to finds a match stays as it is. -/
theorem applyAll_of_no_match
    (h : ∀ p, Comes e b gs o m p →
      ∃ m', p.rule.matchesIn e b p.outcome.text p.machine = .ok [] m') :
    ∃ m', Substitution.applyAll e b (gs.map groupOf) o m = .ok o m' := by
  revert h
  refine along_way (e := e) (b := b) (P := fun gs o m =>
    (∀ p, Comes e b gs o m p →
      ∃ m', p.rule.matchesIn e b p.outcome.text p.machine = .ok [] m') →
    ∃ m', Substitution.applyAll e b (gs.map groupOf) o m = .ok o m') ?_ ?_ ?_ gs o m
  · exact fun o m _ => ⟨m, rfl⟩
  · intro gs o m ih h
    rw [applyAll_of_empty]
    exact ih fun p hp => h p (.empty hp)
  · intro r rs gs o m hmiss _ h
    obtain ⟨m', hnone⟩ := h _ .here
    have hr : r.apply e b o.forceMiss m = .ok ⟨false, o.text⟩ m' :=
      r.apply_of_no_match hnone
    rw [applyAll_of_miss hr]
    exact hmiss o.text m' hr fun p hp => h p (.miss hr hp)

end Stops

/-! ## The groups of a scope -/

namespace Scope

variable {s : Scope} {text : String}

/-- All groups of a scope, those without rules among them, in the order in which lines go through
them. -/
def allGroups (s : Scope) : List (List Rule) := s.frames.flatMap Frame.groups

/-- A text that is sent through the rules of a scope comes to a stop. -/
def Comes (s : Scope) (e : Evaluator) (text : String) (m : Machine) (p : Stop) : Prop :=
  Stencil.Comes e s.bindings s.allGroups (Outcome.initial text) m p

/-- No pattern fails of the rules that a text comes to. -/
def PatternsHold (s : Scope) (e : Evaluator) (text : String) (m : Machine) : Prop :=
  ∀ p, s.Comes e text m p →
    ∃ hits m', p.rule.matchesIn e s.bindings p.outcome.text p.machine = .ok hits m'

theorem filterOrFail_eq_allGroups (s : Scope) (e : Evaluator) (text : String) :
    s.filterOrFail e text =
      Substitution.applyAll e s.bindings (s.allGroups.map groupOf) (Outcome.initial text) := by
  rw [filterOrFail_eq_groups, applyAll_filter s.allGroups, allGroups, List.filter_flatMap, groups]

/-- Where no pattern fails, filtering gives an outcome. -/
theorem PatternsHold.exists_filterOrFail (h : s.PatternsHold e text m) :
    ∃ o m', s.filterOrFail e text m = .ok o m' := by
  cases hrun : s.filterOrFail e text m with
  | ok o m' => exact ⟨o, m', rfl⟩
  | error f m' =>
    rw [filterOrFail_eq_allGroups, applyAll_eq_error_iff] at hrun
    obtain ⟨p, hp, hfail⟩ := hrun
    obtain ⟨hits, m₁, hok⟩ := h p hp
    rw [hok] at hfail
    cases hfail

end Scope

end Stencil
