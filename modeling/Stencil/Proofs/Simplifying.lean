import Mathlib.Logic.Relation
import Stencil.Proofs.Attempts
/-!
# Stencil.Proofs.Simplifying -- trees of rules that come to the same

A tree of rules can be written in more than one way. A group inside a group, or a chain inside a
chain, may give its members to the one around it; one that has a single member is as good as the
member; and one without members may be left out. Wherever this is done in a tree, and however often,
the tree does the same to every line: it tries the same rules on the same texts, and therefore asks
the evaluator the same questions, leaves the same outcome, or fails in the same way.

That a tree does nothing but what the rules do that it tries is what makes this a matter of the rules
alone: nothing has to be said here about hits, or about the diagnostics that failing members leave.
-/

namespace Stencil

open Stencil.Expr

/-! ## What an evaluator is asked -/

/-- A question to an evaluator: for the value of an expression in some bindings, put when the machine
is in some state. -/
structure Question where
  bindings : Bindings
  text : String
  machine : Machine

/-- The question that a text leads to: none, unless it is an expression. -/
def questionsIn (b : Bindings) (text : String) (m : Machine) : List Question :=
  match text.toList with
  | '!' :: r => [⟨b, String.ofList (Text.trim r), m⟩]
  | _ => []

/-- The questions of a rule for the replacements of matches: one for each match, up to the first that
cannot be answered. -/
def Rule.questionsFor (r : Rule) (e : Evaluator) (b : Bindings) : List Hit → Machine → List Question
  | [], _ => []
  | h :: hs, m =>
    questionsIn (b.push (captures h.groups)) r.replacement m ++
      match r.replacementFor e b h m with
      | .ok _ m' => r.questionsFor e b hs m'
      | .error _ _ => []

/-- The questions of a rule that is tried: for its pattern, and then for its replacements. -/
def Attempt.questions (e : Evaluator) (b : Bindings) (p : Attempt) : List Question :=
  questionsIn b p.rule.pattern p.machine ++
    match p.rule.matchesIn e b p.text p.machine with
    | .ok hits m => p.rule.questionsFor e b hits m
    | .error _ _ => []

/-- The questions that a substitution puts to the evaluator when it works on a text, in turn. -/
def Substitution.questions (e : Evaluator) (b : Bindings) (x : Substitution) (text : String)
    (m : Machine) : List Question :=
  (x.attempts e b text m).flatMap (Attempt.questions e b)

/-- Two evaluators give the same answers to questions. -/
def AnswersAlike (e e' : Evaluator) (qs : List Question) : Prop :=
  ∀ q ∈ qs, e'.evaluate q.bindings q.text q.machine = e.evaluate q.bindings q.text q.machine

section Answers

variable {e e' : Evaluator} {b : Bindings} {m m' : Machine} {text : String} {r : Rule}

theorem AnswersAlike.left {qs qs' : List Question} (h : AnswersAlike e e' (qs ++ qs')) :
    AnswersAlike e e' qs := fun q hq => h q (List.mem_append_left qs' hq)

theorem AnswersAlike.right {qs qs' : List Question} (h : AnswersAlike e e' (qs ++ qs')) :
    AnswersAlike e e' qs' := fun q hq => h q (List.mem_append_right qs hq)

theorem AnswersAlike.resolve (h : AnswersAlike e e' (questionsIn b text m)) :
    e'.resolve b text m = e.resolve b text m := by
  rw [questionsIn] at h
  unfold Evaluator.resolve
  generalize text.toList = chars at h ⊢
  cases chars with
  | nil => rfl
  | cons c r =>
    by_cases hc : c = '!'
    · subst hc
      have hanswer := h ⟨b, String.ofList (Text.trim r), m⟩ List.mem_cons_self
      exact bind_congr_left hanswer
    -- A literal text is not put to the evaluator.
    · by_cases hc' : c = '\x60'
      · subst hc'
        rfl
      · simp [hc, hc']

theorem AnswersAlike.replaceHits {hits : List Hit} (h : AnswersAlike e e' (r.questionsFor e b hits m))
    (pos : Nat) (rest : List Char) :
    Stencil.replaceHits (r.replacementFor e' b) pos rest hits m =
      Stencil.replaceHits (r.replacementFor e b) pos rest hits m := by
  induction hits generalizing m pos rest with
  | nil => rfl
  | cons g hits ih =>
    rw [Rule.questionsFor] at h
    have hfirst : r.replacementFor e' b g m = r.replacementFor e b g m := h.left.resolve
    rw [Stencil.replaceHits, Stencil.replaceHits]
    cases hrun : r.replacementFor e b g m with
    | error f m₁ => rw [bind_of_error hrun, bind_of_error (hfirst.trans hrun)]
    | ok new m₁ =>
      have hrest := h.right
      rw [hrun] at hrest
      rw [bind_of_ok hrun, bind_of_ok (hfirst.trans hrun)]
      exact bind_congr_left (ih hrest _ _)

theorem AnswersAlike.apply {p : Attempt} (h : AnswersAlike e e' (p.questions e b)) (hit : Bool) :
    p.rule.apply e' b ⟨hit, p.text⟩ p.machine = p.rule.apply e b ⟨hit, p.text⟩ p.machine := by
  rw [Attempt.questions] at h
  have hmatches : p.rule.matchesIn e' b p.text p.machine = p.rule.matchesIn e b p.text p.machine :=
    bind_congr_left h.left.resolve
  rw [Rule.apply_eq_matchesIn_bind, Rule.apply_eq_matchesIn_bind]
  cases hrun : p.rule.matchesIn e b p.text p.machine with
  | error f m₁ => rw [bind_of_error hrun, bind_of_error (hmatches.trans hrun)]
  | ok hits m₁ =>
    have hrest := h.right
    rw [hrun] at hrest
    rw [bind_of_ok hrun, bind_of_ok (hmatches.trans hrun)]
    cases hits with
    | nil => rfl
    | cons g hits =>
      have hreplace := hrest.replaceHits 0 p.text.toList
      cases htext : Stencil.replaceHits (p.rule.replacementFor e b) 0 p.text.toList (g :: hits)
          m₁ with
      | ok text m₂ =>
        rw [Rule.respond_of_ok (o := ⟨hit, p.text⟩) htext,
          Rule.respond_of_ok (o := ⟨hit, p.text⟩) (hreplace.trans htext)]
      | error f m₂ =>
        rw [Rule.respond_of_error (o := ⟨hit, p.text⟩) htext,
          Rule.respond_of_error (o := ⟨hit, p.text⟩) (hreplace.trans htext)]

end Answers

namespace Substitution

variable {e : Evaluator} {b : Bindings} {m : Machine} {text : String} {x y : Substitution}
  {xs ys zs : List Substitution}

/-! ## Members and their order -/

/-- The rules that a group tries: those of some of its members, and where all of these have missed,
those of the others. -/
theorem attemptsFirst_append (xs ys : List Substitution) (text : String) (m : Machine) :
    attemptsFirst e b (xs ++ ys) text m = attemptsFirst e b xs text m ++
      match applyFirst e b xs (Outcome.initial text) m with
      | .ok o m' => if o.hit then [] else attemptsFirst e b ys o.text m'
      | .error _ _ => [] := by
  induction xs generalizing text m with
  | nil => rfl
  | cons x xs ih =>
    rw [List.cons_append]
    cases hx : x.apply e b (Outcome.initial text) m with
    | error f m' =>
      rw [attemptsFirst_of_error hx, attemptsFirst_of_error hx, applyFirst_of_error hx,
        List.append_nil]
    | ok o m' =>
      obtain ⟨hit, t⟩ := o
      cases hit with
      | true =>
        rw [attemptsFirst_of_hit hx, attemptsFirst_of_hit hx, applyFirst_of_hit hx]
        exact (List.append_nil _).symm
      | false =>
        rw [attemptsFirst_of_miss hx, attemptsFirst_of_miss hx, applyFirst_of_miss hx, ih,
          List.append_assoc]
        rfl

/-- The rules that a chain tries: those of some of its members, and then those of the others. -/
theorem attemptsAll_append (xs ys : List Substitution) (text : String) (m : Machine) :
    attemptsAll e b (xs ++ ys) text m = attemptsAll e b xs text m ++
      match applyAll e b xs (Outcome.initial text) m with
      | .ok o m' => attemptsAll e b ys o.text m'
      | .error _ _ => [] := by
  induction xs generalizing text m with
  | nil => rfl
  | cons x xs ih =>
    rw [List.cons_append]
    cases hx : x.apply e b (Outcome.initial text) m with
    | error f m' =>
      rw [attemptsAll_of_error hx, attemptsAll_of_error hx, applyAll_of_error hx, List.append_nil]
    | ok o m' =>
      rw [attemptsAll_of_ok hx, attemptsAll_of_ok hx, applyAll_of_ok hx, applyAll_eq_rejoined, ih,
        List.append_assoc]
      cases applyAll e b xs (Outcome.initial o.text) m' <;> rfl

/-- Members of a group do not hear of what those before them are. -/
theorem attemptsFirst_append_congr (h : attemptsFirst e b ys = attemptsFirst e b zs) :
    attemptsFirst e b (xs ++ ys) = attemptsFirst e b (xs ++ zs) := by
  funext text m
  rw [attemptsFirst_append, attemptsFirst_append, h]

theorem attemptsAll_append_congr (h : attemptsAll e b ys = attemptsAll e b zs) :
    attemptsAll e b (xs ++ ys) = attemptsAll e b (xs ++ zs) := by
  funext text m
  rw [attemptsAll_append, attemptsAll_append, h]

/-! ## Questions that are answered alike -/

section Answers

variable {e' : Evaluator}

mutual

/-- Of an evaluator a substitution notices its answers to the questions, and nothing else. -/
theorem eq_of_answersAlike (x : Substitution) (text : String) (m : Machine)
    (h : AnswersAlike e e' (x.questions e b text m)) :
    x.attempts e' b text m = x.attempts e b text m ∧
      x.apply e' b (Outcome.initial text) m = x.apply e b (Outcome.initial text) m := by
  match x with
  | .rule r =>
    rw [questions, attempts, List.flatMap_singleton] at h
    refine ⟨rfl, ?_⟩
    rw [apply, apply]
    exact h.apply false
  | .first xs =>
    rw [attempts, attempts, apply_first_initial, apply_first_initial]
    exact eq_of_answersAlikeFirst xs text m h
  | .all xs =>
    rw [attempts, attempts, apply, apply]
    exact eq_of_answersAlikeAll xs text m h

theorem eq_of_answersAlikeFirst (xs : List Substitution) (text : String) (m : Machine)
    (h : AnswersAlike e e' ((attemptsFirst e b xs text m).flatMap (Attempt.questions e b))) :
    attemptsFirst e' b xs text m = attemptsFirst e b xs text m ∧
      applyFirst e' b xs (Outcome.initial text) m = applyFirst e b xs (Outcome.initial text) m := by
  match xs with
  | [] => exact ⟨rfl, rfl⟩
  | x :: xs =>
    have hmember : AnswersAlike e e' (x.questions e b text m) := by
      rw [attemptsFirst, List.flatMap_append] at h
      exact h.left
    obtain ⟨htried, happlied⟩ := eq_of_answersAlike x text m hmember
    cases hx : x.apply e b (Outcome.initial text) m with
    | error f m₁ =>
      have hx' := happlied.trans hx
      rw [attemptsFirst_of_error hx, attemptsFirst_of_error hx', applyFirst_of_error hx,
        applyFirst_of_error hx']
      exact ⟨htried, rfl⟩
    | ok o m₁ =>
      have hx' := happlied.trans hx
      obtain ⟨hit, t⟩ := o
      cases hit with
      | true =>
        rw [attemptsFirst_of_hit hx, attemptsFirst_of_hit hx', applyFirst_of_hit hx,
          applyFirst_of_hit hx']
        exact ⟨htried, rfl⟩
      | false =>
        rw [attemptsFirst_of_miss hx, List.flatMap_append] at h
        obtain ⟨hothers, hrest⟩ := eq_of_answersAlikeFirst xs t m₁ h.right
        rw [attemptsFirst_of_miss hx, attemptsFirst_of_miss hx', applyFirst_of_miss hx,
          applyFirst_of_miss hx', htried, hothers]
        exact ⟨rfl, hrest⟩

theorem eq_of_answersAlikeAll (xs : List Substitution) (text : String) (m : Machine)
    (h : AnswersAlike e e' ((attemptsAll e b xs text m).flatMap (Attempt.questions e b))) :
    attemptsAll e' b xs text m = attemptsAll e b xs text m ∧
      applyAll e' b xs (Outcome.initial text) m = applyAll e b xs (Outcome.initial text) m := by
  match xs with
  | [] => exact ⟨rfl, rfl⟩
  | x :: xs =>
    have hmember : AnswersAlike e e' (x.questions e b text m) := by
      rw [attemptsAll, List.flatMap_append] at h
      exact h.left
    obtain ⟨htried, happlied⟩ := eq_of_answersAlike x text m hmember
    cases hx : x.apply e b (Outcome.initial text) m with
    | error f m₁ =>
      have hx' := happlied.trans hx
      rw [attemptsAll_of_error hx, attemptsAll_of_error hx', applyAll_of_error hx,
        applyAll_of_error hx']
      exact ⟨htried, rfl⟩
    | ok o m₁ =>
      have hx' := happlied.trans hx
      rw [attemptsAll_of_ok hx, List.flatMap_append] at h
      obtain ⟨hothers, hrest⟩ := eq_of_answersAlikeAll xs o.text m₁ h.right
      rw [attemptsAll_of_ok hx, attemptsAll_of_ok hx', applyAll_of_ok hx, applyAll_of_ok hx', htried,
        hothers, applyAll_eq_rejoined xs o, applyAll_eq_rejoined xs o, hrest]
      exact ⟨rfl, rfl⟩

end

end Answers

/-! ## Trees that try the same rules -/

/-- Two substitutions try the same rules, on the same texts and with the same machines. -/
def TriesSame (x y : Substitution) : Prop :=
  ∀ (e : Evaluator) (b : Bindings), x.attempts e b = y.attempts e b

namespace TriesSame

/-- A substitution does nothing but what the rules do that it tries. -/
theorem apply_eq (h : TriesSame x y) (e : Evaluator) (b : Bindings) :
    x.apply e b = y.apply e b := by
  funext o m
  rw [apply_eq_applyAll x, apply_eq_applyAll y, h e b]

theorem questions_eq (h : TriesSame x y) (e : Evaluator) (b : Bindings) :
    x.questions e b = y.questions e b := by
  funext text m
  rw [questions, questions, h e b]

/-- In a group a member may stand for another one that tries the same rules. -/
theorem inFirst (h : TriesSame x y) (xs zs : List Substitution) :
    TriesSame (first (xs ++ x :: zs)) (first (xs ++ y :: zs)) := by
  intro e b
  have hmember : attemptsFirst e b (x :: zs) = attemptsFirst e b (y :: zs) := by
    funext text m
    rw [attemptsFirst, attemptsFirst, h e b, h.apply_eq e b]
  funext text m
  rw [attempts, attempts, attemptsFirst_append_congr hmember]

theorem inAll (h : TriesSame x y) (xs zs : List Substitution) :
    TriesSame (all (xs ++ x :: zs)) (all (xs ++ y :: zs)) := by
  intro e b
  have hmember : attemptsAll e b (x :: zs) = attemptsAll e b (y :: zs) := by
    funext text m
    rw [attemptsAll, attemptsAll, h e b, h.apply_eq e b]
  funext text m
  rw [attempts, attempts, attemptsAll_append_congr hmember]

/-- A group inside a group ends it with the first of its members that hits. -/
theorem spliceFirst (xs ys zs : List Substitution) :
    TriesSame (first (xs ++ first ys :: zs)) (first (xs ++ (ys ++ zs))) := by
  intro e b
  have hmembers : attemptsFirst e b (first ys :: zs) = attemptsFirst e b (ys ++ zs) := by
    funext text m
    rw [attemptsFirst, attempts, apply_first_initial]
    exact (attemptsFirst_append ys zs text m).symm
  funext text m
  rw [attempts, attempts, attemptsFirst_append_congr hmembers]

theorem spliceAll (xs ys zs : List Substitution) :
    TriesSame (all (xs ++ all ys :: zs)) (all (xs ++ (ys ++ zs))) := by
  intro e b
  have hmembers : attemptsAll e b (all ys :: zs) = attemptsAll e b (ys ++ zs) := by
    funext text m
    rw [attemptsAll, attempts, apply]
    exact (attemptsAll_append ys zs text m).symm
  funext text m
  rw [attempts, attempts, attemptsAll_append_congr hmembers]

theorem soleFirst (x : Substitution) : TriesSame (first [x]) x := by
  intro e b
  funext text m
  rw [attempts]
  cases hx : x.apply e b (Outcome.initial text) m with
  | error f m' => exact attemptsFirst_of_error hx
  | ok o m' =>
    obtain ⟨hit, t⟩ := o
    cases hit with
    | true => exact attemptsFirst_of_hit hx
    | false =>
      rw [attemptsFirst_of_miss hx, attemptsFirst]
      exact List.append_nil _

theorem soleAll (x : Substitution) : TriesSame (all [x]) x := by
  intro e b
  funext text m
  rw [attempts, attemptsAll]
  cases x.apply e b (Outcome.initial text) m <;> exact List.append_nil _

end TriesSame

/-- What holds no members tries nothing, and leaves the line as it is. -/
theorem attempts_of_isEmpty (h : x.isEmpty = true) (text : String) (m : Machine) :
    x.attempts e b text m = [] ∧
      x.apply e b (Outcome.initial text) m = .ok (Outcome.initial text) m := by
  cases x with
  | rule r => cases h
  | first xs =>
    obtain rfl := List.isEmpty_iff.mp h
    exact ⟨rfl, rfl⟩
  | all xs =>
    obtain rfl := List.isEmpty_iff.mp h
    exact ⟨rfl, rfl⟩

namespace TriesSame

theorem dropFirst (h : x.isEmpty = true) (xs zs : List Substitution) :
    TriesSame (first (xs ++ x :: zs)) (first (xs ++ zs)) := by
  intro e b
  have hmembers : attemptsFirst e b (x :: zs) = attemptsFirst e b zs := by
    funext text m
    obtain ⟨hattempts, happly⟩ := attempts_of_isEmpty (e := e) (b := b) h text m
    rw [attemptsFirst_of_miss happly, hattempts, List.nil_append]
  funext text m
  rw [attempts, attempts, attemptsFirst_append_congr hmembers]

theorem dropAll (h : x.isEmpty = true) (xs zs : List Substitution) :
    TriesSame (all (xs ++ x :: zs)) (all (xs ++ zs)) := by
  intro e b
  have hmembers : attemptsAll e b (x :: zs) = attemptsAll e b zs := by
    funext text m
    obtain ⟨hattempts, happly⟩ := attempts_of_isEmpty (e := e) (b := b) h text m
    rw [attemptsAll_of_ok happly, hattempts]
    rfl
  funext text m
  rw [attempts, attempts, attemptsAll_append_congr hmembers]

end TriesSame

/-! ## Simplifying -/

/-- A tree is made simpler in one place. -/
inductive Simpler : Substitution → Substitution → Prop
  /-- A group inside a group gives its members to the one around it, -/
  | spliceFirst (xs ys zs : List Substitution) :
    Simpler (first (xs ++ first ys :: zs)) (first (xs ++ (ys ++ zs)))
  /-- and so does a chain inside a chain. -/
  | spliceAll (xs ys zs : List Substitution) :
    Simpler (all (xs ++ all ys :: zs)) (all (xs ++ (ys ++ zs)))
  /-- A single member stands for its group, -/
  | soleFirst (x : Substitution) : Simpler (first [x]) x
  /-- or for its chain. -/
  | soleAll (x : Substitution) : Simpler (all [x]) x
  /-- A group or chain without members is left out of a group, -/
  | dropFirst {x : Substitution} (h : x.isEmpty = true) (xs zs : List Substitution) :
    Simpler (first (xs ++ x :: zs)) (first (xs ++ zs))
  /-- or of a chain. -/
  | dropAll {x : Substitution} (h : x.isEmpty = true) (xs zs : List Substitution) :
    Simpler (all (xs ++ x :: zs)) (all (xs ++ zs))
  /-- The place may be in a member of a group, -/
  | inFirst {x y : Substitution} (h : Simpler x y) (xs zs : List Substitution) :
    Simpler (first (xs ++ x :: zs)) (first (xs ++ y :: zs))
  /-- or of a chain. -/
  | inAll {x y : Substitution} (h : Simpler x y) (xs zs : List Substitution) :
    Simpler (all (xs ++ x :: zs)) (all (xs ++ y :: zs))

theorem Simpler.triesSame (h : Simpler x y) : TriesSame x y := by
  induction h with
  | spliceFirst xs ys zs => exact .spliceFirst xs ys zs
  | spliceAll xs ys zs => exact .spliceAll xs ys zs
  | soleFirst x => exact .soleFirst x
  | soleAll x => exact .soleAll x
  | dropFirst h xs zs => exact .dropFirst h xs zs
  | dropAll h xs zs => exact .dropAll h xs zs
  | inFirst _ xs zs ih => exact ih.inFirst xs zs
  | inAll _ xs zs ih => exact ih.inAll xs zs

/-- Nothing tells two substitutions apart. -/
structure SameAs (x y : Substitution) : Prop where
  /-- They leave the same outcome, or fail in the same way, and leave the machine in the same state,
  whatever the evaluator, the bindings and the line that comes to them. -/
  outcome : ∀ (e : Evaluator) (b : Bindings) (o : Outcome) (m : Machine),
    x.apply e b o m = y.apply e b o m
  /-- They try the same rules, one after the other, on the same texts, -/
  tried : ∀ (e : Evaluator) (b : Bindings) (text : String) (m : Machine),
    x.attempts e b text m = y.attempts e b text m
  /-- and ask the evaluator the same questions, one after the other. -/
  asked : ∀ (e : Evaluator) (b : Bindings) (text : String) (m : Machine),
    x.questions e b text m = y.questions e b text m

/-- **Simplifying changes nothing.** A tree that has been made simpler any number of times, each time
anywhere in it, does what it has done before. -/
theorem same_of_simpler (h : Relation.ReflTransGen Simpler x y) : x.SameAs y := by
  have htries : TriesSame x y := by
    induction h with
    | refl => exact fun _ _ => rfl
    | tail _ hstep ih => exact fun e b => (ih e b).trans (hstep.triesSame e b)
  exact {
    outcome := fun e b o m => by rw [htries.apply_eq]
    tried := fun e b text m => by rw [htries e b]
    asked := fun e b text m => by rw [htries.questions_eq] }

/-! ## A tree with everything in it that can be made simpler -/

/-- A group that holds a chain without members, a group whose only member is a chain with only one
member, and a chain that ends with a chain and a group without members. The rules may fail. -/
def wordyRules : Substitution :=
  first [all [], first [all [.rule ⟨.plain, "a", "!x"⟩]],
    all [.rule ⟨.regex, "!y", "b"⟩, all [.rule ⟨.regex, "(", "c"⟩], first []]]

/-- The same rules without ado. -/
def terseRules : Substitution :=
  first [.rule ⟨.plain, "a", "!x"⟩, all [.rule ⟨.regex, "!y", "b"⟩, .rule ⟨.regex, "(", "c"⟩]]

theorem same_of_simpler_wordyRules :
    Relation.ReflTransGen Simpler wordyRules terseRules ∧ wordyRules.SameAs terseRules := by
  have hsteps : Relation.ReflTransGen Simpler wordyRules terseRules :=
    .head (.dropFirst rfl [] _) <|
    .head (.inFirst (.inFirst (.soleAll _) [] []) [] _) <|
    .head (.spliceFirst [] _ _) <|
    .head (.inFirst (.spliceAll [_] _ _) [_] []) <|
    .head (.inFirst (.dropAll rfl [_, _] []) [_] []) .refl
  exact ⟨hsteps, same_of_simpler hsteps⟩

end Substitution

end Stencil
