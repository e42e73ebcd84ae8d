import Stencil.Proofs.Replacing
import Stencil.Scope
/-!
# Stencil.Proofs.Filtering -- what the rules in force do to a line

The rules of a scope stand in groups and frames, but a line only notices the groups that hold rules:
groups without rules and the borders between frames make no difference. On top of that stands what a
literal rule does, which is to put its replacement for every occurrence of its pattern.
-/

namespace Stencil

open Stencil.Expr Stencil.Text

variable {e : Evaluator} {b : Bindings}

/-! ## Groups and frames -/

theorem applyAll_append (ms ns : List Substitution) (o : Outcome) :
    Substitution.applyAll e b (ms ++ ns) o =
      Substitution.applyAll e b ms o >>= Substitution.applyAll e b ns := by
  induction ms generalizing o with
  | nil => simp [Substitution.applyAll]
  | cons m ms ih => simp [Substitution.applyAll, ih]

/-- A group is its members from the first on, and does not hear of hits before it. -/
theorem apply_first (ms : List Substitution) (o : Outcome) :
    (Substitution.first ms).apply e b o =
      do return (← Substitution.applyFirst e b ms o.forceMiss).rejoin o := by
  cases ms with
  | nil =>
    rw [Substitution.apply, Substitution.applyFirst, pure_bind, Outcome.rejoin, Outcome.forceMiss,
      Bool.or_false]
    rfl
  | cons m ms => rw [Substitution.apply]

theorem apply_groupOf (rs : List Rule) (o : Outcome) :
    (groupOf rs).apply e b o =
      do return (← Substitution.applyFirst e b (rs.map .rule) o.forceMiss).rejoin o :=
  apply_first (rs.map .rule) o

/-- A group without rules hands on what it is given. -/
theorem apply_groupOf_nil (o : Outcome) : (groupOf []).apply e b o = pure o := by
  rw [groupOf, List.map_nil, Substitution.apply]
  rfl

/-- A group of one rule does what the rule does. -/
theorem apply_groupOf_singleton (r : Rule) (o : Outcome) :
    (groupOf [r]).apply e b o = do return (← r.apply e b o.forceMiss).rejoin o := by
  rw [apply_groupOf, List.map_singleton]
  simp [Substitution.applyFirst, Substitution.apply]

/-- Groups without rules may be left out. -/
theorem applyAll_filter (gs : List (List Rule)) (o : Outcome) :
    Substitution.applyAll e b (gs.map groupOf) o =
      Substitution.applyAll e b ((gs.filter (!·.isEmpty)).map groupOf) o := by
  induction gs generalizing o with
  | nil => rfl
  | cons g gs ih =>
    cases g with
    | nil => simp [Substitution.applyAll, apply_groupOf_nil, ih]
    | cons r g => simp [Substitution.applyAll, ih]

/-- The frames of a scope do what their groups that hold rules do one after the other, the
innermost frame first. -/
theorem applyAll_frames (fs : List Frame) (o : Outcome) :
    Substitution.applyAll e b (fs.map Frame.substitution) o =
      Substitution.applyAll e b
        ((fs.flatMap fun f => f.groups.filter (!·.isEmpty)).map groupOf) o := by
  induction fs generalizing o with
  | nil => rfl
  | cons f fs ih =>
    rw [List.flatMap_cons, List.map_append, applyAll_append, ← applyAll_filter]
    simp [Substitution.applyAll, Frame.substitution, Substitution.apply, ih]

namespace Scope

/-- A line goes through the groups that hold rules, in the order in which they are listed. -/
theorem filterOrFail_eq_groups (s : Scope) (e : Evaluator) (text : String) :
    s.filterOrFail e text =
      Substitution.applyAll e s.bindings (s.groups.map groupOf) (Outcome.initial text) :=
  applyAll_frames s.frames _

/-- Where no pattern fails, filtering only gives an outcome: the scope stays as it is. -/
theorem filter_of_ok {s : Scope} {e : Evaluator} {text : String} {m m' : Machine} {o : Outcome}
    (h : s.filterOrFail e text m = .ok o m') : s.filter e text m = .ok (o, s) m' := by
  rw [filter]
  exact tryCatch_of_ok (bind_of_ok h)

/-! ## Registering rules -/

theorem filter_groups_addAlone (f : Frame) (r : Rule) :
    (f.newGroup.add r).groups.filter (!·.isEmpty) = f.groups.filter (!·.isEmpty) ++ [[r]] := by
  -- A new group is only begun behind one that holds rules.
  by_cases h : f.current.isEmpty = true
  · have hc : f.current = [] := by simpa using h
    simp [Frame.newGroup, Frame.add, Frame.groups, hc]
  · simp [Frame.newGroup, Frame.add, Frame.groups, h]

/-- A rule in a group of its own is the last of the innermost frame. -/
theorem groups_addAlone {s : Scope} (r : Rule) (h : s.enclosing = []) :
    (s.addAlone r).groups = s.groups ++ [[r]] := by
  simp [groups, frames, addAlone, newGroup, add, filter_groups_addAlone, h]

end Scope

/-! ## Literal rules -/

/-- A text between backticks. -/
def backticked (t : String) : String := "\x60" ++ t ++ "\x60"

/-- A text between backticks stands for what is between them, whatever that is. -/
theorem resolve_backticked (t : String) : e.resolve b (backticked t) = pure t := by
  simp [Evaluator.resolve, backticked]

/-- The rule that puts one text for another as they stand. -/
def literalRule (pattern replacement : String) : Rule :=
  ⟨.plain, backticked pattern, backticked replacement⟩

/-- The text that a literal rule leaves. -/
def replaced (pattern replacement text : String) : String :=
  String.ofList (replaceAll pattern.toList replacement.toList text.toList)

theorem replacementFor_literalRule (p r : String) :
    (literalRule p r).replacementFor e b = constantly r.toList := by
  funext h
  simp [Rule.replacementFor, literalRule, resolve_backticked, constantly]

/-- A literal rule never fails. It hits where its pattern occurs. -/
theorem apply_literalRule (p r : String) (o : Outcome) :
    (literalRule p r).apply e b o =
      pure ⟨o.hit || !(occurrences p.toList o.text.toList).isEmpty, replaced p r o.text⟩ := by
  have hloop := replaceHits_occurrences p.toList r.toList o.text.toList
  have hhits : (literalRule p r).mode.hits p.toList o.text.toList =
      .ok ((occurrences p.toList o.text.toList).map (occurrenceHit p.toList)) := rfl
  rw [Rule.apply, show (literalRule p r).pattern = backticked p from rfl, resolve_backticked,
    replacementFor_literalRule, pure_bind, hhits]
  cases hocc : occurrences p.toList o.text.toList with
  | nil =>
    simp [Expr.ofExcept, Outcome.asMiss, replaced, replaceAll_of_occurrences_eq_nil _ hocc]
  | cons i is =>
    rw [hocc] at hloop
    funext m
    simp only [Expr.ofExcept, pure_bind, List.map_cons] at hloop ⊢
    exact tryCatch_of_ok (by rw [hloop]; simp [Outcome.asHit, replaced])

/-- A group of one literal rule puts its replacement for every occurrence of its pattern. -/
theorem apply_groupOf_literalRule (p r : String) (o : Outcome) :
    ∃ hit, (groupOf [literalRule p r]).apply e b o = pure ⟨hit, replaced p r o.text⟩ := by
  rw [apply_groupOf_singleton, apply_literalRule]
  exact ⟨_, rfl⟩

/-- Literal rules in groups of their own do their replacements one after the other. -/
theorem applyAll_literalRules (pairs : List (String × String)) (o : Outcome) :
    ∃ hit, Substitution.applyAll e b
        ((pairs.map fun q => [literalRule q.1 q.2]).map groupOf) o =
      pure ⟨hit, pairs.foldl (fun t q => replaced q.1 q.2 t) o.text⟩ := by
  induction pairs generalizing o with
  | nil => exact ⟨o.hit, rfl⟩
  | cons q pairs ih =>
    obtain ⟨hit, hq⟩ := apply_groupOf_literalRule (e := e) (b := b) q.1 q.2 o
    obtain ⟨hit', hrest⟩ := ih ⟨hit, replaced q.1 q.2 o.text⟩
    refine ⟨hit', ?_⟩
    rw [List.map_cons, List.map_cons, Substitution.applyAll, hq, pure_bind, hrest, List.foldl_cons]

end Stencil
