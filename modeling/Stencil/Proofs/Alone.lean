import Stencil.Proofs.Groups
/-!
# Stencil.Proofs.Alone -- rules in groups of their own

In a group the first rule that hits keeps the others from being applied; groups do not keep anything
from one another. So rules of which each stands in a group of its own are applied one after the
other, whatever they do to the line, and only a pattern that fails ends the sequence. What has to be
known of a scope for that is which rules its levels hold, and that they stand alone.
-/

namespace Stencil

open Stencil.Expr

/-- Rules, each in a group of its own. -/
def alone (rules : List Rule) : List (List Rule) := rules.map fun r => [r]

@[simp] theorem alone_nil : alone [] = [] := rfl

@[simp] theorem alone_cons (r : Rule) (rules : List Rule) :
    alone (r :: rules) = [r] :: alone rules := rfl

@[simp] theorem alone_append (rules more : List Rule) :
    alone (rules ++ more) = alone rules ++ alone more := List.map_append

theorem flatten_map_alone (levels : List (List Rule)) :
    (levels.map alone).flatten = alone levels.flatten := by
  rw [alone, List.map_flatten]
  rfl

/-! ## What a line does among them -/

section Filtering

variable {e : Evaluator} {b : Bindings}

/-- A rule in a group of its own does what it does without a group. -/
theorem apply_groupOf_alone (r : Rule) (o : Outcome) :
    (groupOf [r]).apply e b o = r.apply e b o := by
  -- The hits before the group are left out and taken up again.
  have hgiven : o.forceMiss.rejoin o = o := by
    rw [Outcome.rejoin, Outcome.forceMiss, Bool.or_false]
  rw [apply_groupOf_singleton, ← r.apply_rejoin, hgiven]

/-- Rules that stand alone are applied one after the other. -/
theorem applyAll_alone (rules : List Rule) (o : Outcome) :
    Substitution.applyAll e b ((alone rules).map groupOf) o =
      rules.foldlM (fun o r => r.apply e b o) o := by
  rw [applyAll_eq_foldlM, alone, List.foldlM_map]
  congr
  funext o r
  exact apply_groupOf_alone r o

/-- There is nothing beside a rule that stands alone. -/
theorem Comes.others_of_alone {gs : List (List Rule)} {o : Outcome} {m : Machine} {p : Stop}
    (h : Comes e b gs o m p) (hgs : ∀ g ∈ gs, g.length ≤ 1) : p.others = [] := by
  have hbehind : ∀ {r : Rule} {rs : List Rule} {gs : List (List Rule)},
      (∀ g ∈ (r :: rs) :: gs, g.length ≤ 1) → rs = [] := by
    intro r rs gs hall
    exact List.length_eq_zero_iff.mp (Nat.le_zero.mp (Nat.le_of_succ_le_succ (hall _ (.head gs))))
  induction h with
  | here => exact hbehind hgs
  | miss _ _ ih =>
    rw [hbehind hgs] at ih
    refine ih fun g hg => ?_
    rcases List.mem_cons.mp hg with rfl | hg
    · exact Nat.zero_le 1
    · exact hgs g (.tail _ hg)
  | hit _ _ ih => exact ih fun g hg => hgs g (.tail _ hg)
  | empty _ ih => exact ih fun g hg => hgs g (.tail _ hg)

/-- Behind a rule that stands alone a line comes to the rules of the other groups. -/
theorem Comes.behind {gs : List (List Rule)} {r : Rule} {o o' : Outcome} {m m' : Machine} {p : Stop}
    (h : r.apply e b o.forceMiss m = .ok o' m') (hp : Comes e b gs (o'.rejoin o) m' p) :
    Comes e b ([r] :: gs) o m p := by
  obtain ⟨hit, t⟩ := o'
  cases hit with
  | true =>
    rw [Outcome.rejoin, Bool.or_true] at hp
    exact .hit h hp
  | false =>
    rw [Outcome.rejoin, Bool.or_false] at hp
    exact .miss h (.empty hp)

/-- A line comes to every rule that stands alone, when no pattern fails on its way: to each with
what the rules before it have made of the line. -/
theorem comes_of_alone {gs : List (List Rule)} {before after : List Rule} {r : Rule} {o : Outcome}
    {m : Machine} (hgs : gs.filter (!·.isEmpty) = alone (before ++ r :: after))
    (hpatterns : ∀ p, Comes e b gs o m p →
      ∃ hits m', p.rule.matchesIn e b p.outcome.text p.machine = .ok hits m') :
    ∃ o' m' later, before.foldlM (fun o r => r.apply e b o) o m = .ok o' m' ∧
      Comes e b gs o m ⟨r, [], later, o', m'⟩ ∧ later.filter (!·.isEmpty) = alone after := by
  induction gs generalizing before o m with
  | nil =>
    rw [alone_append] at hgs
    simp at hgs
  | cons g gs ih =>
    cases g with
    | nil =>
      obtain ⟨o', m', later, hbefore, hcomes, hlater⟩ :=
        ih (by simpa using hgs) fun p hp => hpatterns p (.empty hp)
      exact ⟨o', m', later, hbefore, .empty hcomes, hlater⟩
    | cons q qs =>
      cases before with
      | nil =>
        have hcons : (q :: qs) :: gs.filter (!·.isEmpty) = [r] :: alone after := by
          rwa [List.filter_cons_of_pos rfl] at hgs
        obtain ⟨hfirst, hrest⟩ := List.cons.inj hcons
        obtain ⟨rfl, rfl⟩ := List.cons.inj hfirst
        exact ⟨o, m, gs, rfl, .here, hrest⟩
      | cons r₀ before =>
        have hcons : (q :: qs) :: gs.filter (!·.isEmpty) =
            [r₀] :: alone (before ++ r :: after) := by rwa [List.filter_cons_of_pos rfl] at hgs
        obtain ⟨hgroup, hrest⟩ := List.cons.inj hcons
        obtain ⟨rfl, rfl⟩ := List.cons.inj hgroup
        -- The pattern of the first rule does not fail, so the rule hands on an outcome.
        obtain ⟨hits, m₁, hmatches⟩ := hpatterns _ .here
        obtain ⟨o₁, m₂, hfirst⟩ := q.exists_apply o.forceMiss hmatches
        have halone : q.apply e b o m = .ok (o₁.rejoin o) m₂ := by
          rw [← apply_groupOf_alone, apply_groupOf_singleton, bind_of_ok hfirst]
          rfl
        obtain ⟨o', m', later, hbefore, hcomes, hlater⟩ :=
          ih hrest fun p hp => hpatterns p (.behind hfirst hp)
        exact ⟨o', m', later, by rw [List.foldlM_cons, bind_of_ok halone, hbefore],
          .behind hfirst hcomes, hlater⟩

end Filtering

/-! ## Frames -/

namespace Frame

/-- The groups of a frame that hold rules. -/
def held (f : Frame) : List (List Rule) := f.groups.filter (!·.isEmpty)

@[simp] theorem held_newGroup (f : Frame) : f.newGroup.held = f.held := by
  by_cases h : f.current.isEmpty = true
  · rw [newGroup, if_pos h]
  · rw [newGroup, if_neg h, held, held, groups, groups, List.filter_append]
    exact List.append_nil _

@[simp] theorem held_addAlone (f : Frame) (r : Rule) : (f.addAlone r).held = f.held ++ [[r]] :=
  Scope.filter_groups_addAlone f r

theorem held_foldl_addAlone (rules : List Rule) (f : Frame) :
    (rules.foldl addAlone f).held = f.held ++ alone rules := by
  induction rules generalizing f with
  | nil => rw [List.foldl_nil, alone_nil, List.append_nil]
  | cons r rules ih => rw [List.foldl_cons, ih, held_addAlone, alone_cons, List.append_assoc]; rfl

end Frame

/-! ## Scopes -/

namespace Scope

/-- The levels of a scope hold the rules `levels`, the innermost level first, and each rule stands
in a group of its own. -/
def Alone (s : Scope) (levels : List (List Rule)) : Prop :=
  s.frames.map Frame.held = levels.map alone

/-- A scope without rules. -/
theorem alone_of_groups_eq_nil {s : Scope} (h : s.groups = []) :
    s.Alone (s.frames.map fun _ => []) := by
  have hheld : ∀ f ∈ s.frames, f.held = [] := List.flatMap_eq_nil_iff.mp h
  rw [Alone, List.map_map]
  exact List.map_congr_left hheld

namespace Alone

variable {s t : Scope} {levels : List (List Rule)}

/-- Each group that holds rules holds one. -/
theorem singleton (h : s.Alone levels) :
    ∀ f ∈ s.frames, ∀ g ∈ f.groups, g ≠ [] → ∃ r, g = [r] := by
  intro f hf g hg hne
  have hheld : f.held ∈ levels.map alone := h ▸ List.mem_map_of_mem hf
  obtain ⟨rules, -, hrules⟩ := List.mem_map.mp hheld
  have hmem : g ∈ f.held := List.mem_filter.mpr ⟨hg, by simpa using hne⟩
  rw [← hrules] at hmem
  obtain ⟨r, -, hr⟩ := List.mem_map.mp hmem
  exact ⟨r, hr.symm⟩

/-- The rules in force, from level to level. -/
theorem groups (h : s.Alone levels) : s.groups = alone levels.flatten := by
  rw [Scope.groups, List.flatMap_def, ← flatten_map_alone, ← h]
  rfl

/-- What only changes the innermost frame, by giving it rules that stand alone. -/
theorem give {rules : List Rule} (h : s.Alone levels) (henclosing : t.enclosing = s.enclosing)
    (hframe : t.frame.held = s.frame.held ++ alone rules) :
    t.Alone (levels.modifyHead (· ++ rules)) := by
  cases levels with
  | nil => cases h
  | cons level levels =>
    obtain ⟨hlevel, hlevels⟩ := List.cons.inj h
    rw [Alone, frames, List.map_cons, henclosing, hframe, hlevel, List.modifyHead_cons,
      List.map_cons, alone_append, hlevels]

/-- What keeps the rules of all frames. -/
theorem keep (h : s.Alone levels) (henclosing : t.enclosing = s.enclosing)
    (hframe : t.frame.held = s.frame.held) : t.Alone levels := by
  rwa [Alone, frames, List.map_cons, henclosing, hframe]

/-- A level with rules that stand alone, inside the others. -/
theorem enter {rules : List Rule} (h : s.Alone levels) (henclosing : t.enclosing = s.frames)
    (hframe : t.frame.held = alone rules) : t.Alone (rules :: levels) := by
  rw [Alone, frames, List.map_cons, henclosing, hframe, h, List.map_cons]

end Alone

/-- A line goes through the rules of the levels one after the other, the innermost level first. -/
structure InTurn (s : Scope) (e : Evaluator) (levels : List (List Rule)) : Prop where
  /-- The groups that hold rules hold one rule each, which are the rules of their level. -/
  alone : s.Alone levels
  /-- The line is handed from rule to rule. -/
  filter : ∀ text, s.filterOrFail e text =
    levels.flatten.foldlM (fun o r => r.apply e s.bindings o) (Outcome.initial text)
  /-- No rule that the line comes to has others beside it that it could keep from being applied. -/
  others : ∀ text m p, s.Comes e text m p → p.others = []
  /-- Where no pattern fails, the line comes to every rule, with what the rules before it have made
  of it. -/
  all : ∀ text m, s.PatternsHold e text m →
    ∀ before r after, levels.flatten = before ++ r :: after →
      ∃ o m' later,
        before.foldlM (fun o r => r.apply e s.bindings o) (Outcome.initial text) m = .ok o m' ∧
          s.Comes e text m ⟨r, [], later, o, m'⟩ ∧
          later.filter (!·.isEmpty) = Stencil.alone after

/-- Rules that stand alone are applied one after the other. -/
theorem Alone.inTurn {s : Scope} {levels : List (List Rule)} (h : s.Alone levels) (e : Evaluator) :
    s.InTurn e levels where
  alone := h
  filter text := by rw [filterOrFail_eq_groups, h.groups, applyAll_alone]
  others text m p hp := by
    refine hp.others_of_alone fun g hg => ?_
    obtain ⟨f, hf, hg⟩ := List.mem_flatMap.mp hg
    by_cases hne : g = []
    · rw [hne]
      exact Nat.zero_le 1
    · obtain ⟨r, rfl⟩ := h.singleton f hf g hg hne
      exact Nat.le_refl 1
  all text m hpatterns before r after hsplit := by
    refine comes_of_alone ?_ hpatterns
    rw [allGroups, List.filter_flatMap, ← hsplit, ← h.groups, Scope.groups]

end Scope

end Stencil
