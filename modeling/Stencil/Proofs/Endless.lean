import Mathlib.Tactic.ByContra
import Mathlib.Tactic.Push
import Stencil.Proofs.Containment
import Stencil.Proofs.Drawing
import Stencil.Proofs.Limits
/-!
# Stencil.Proofs.Endless -- when rendering ends

Rendering a tree is a recursion over the tree, but for the passes of its blocks: a block asks its
iterator for another element after each pass, and what the body of the block has done in the pass
can have given the iterator more. So rendering need not end. Blocks are all there is to it, though:
whatever the evaluator, rendering ends exactly when each block that the run comes to makes finitely
many passes, and a block does so exactly when it gains elements in finitely many of them only.
-/

namespace Stencil

open Stencil.Expr Render

/-! ## Blocks on their way -/

/-- A block that runs through its elements, from a session on. -/
structure Course where
  loop : LoopHeader
  body : List Node
  elements : Ref
  start : Session

namespace Course

variable (e : Evaluator) (c : Course)

/-- The passes of the block under a limit, of which `fuel` more may be made. -/
def passesFrom (limit fuel : Nat) (previous : Option (List String)) : Render Unit :=
  passes c.loop c.elements (Node.renderAll e limit c.body) fuel previous

/-- The pass for an element under a limit. -/
def passFor (limit : Nat) (previous : Option (List String)) (v : Value) :
    Render (Option (List String)) :=
  pass c.loop (Node.renderAll e limit c.body) previous v

/-- A pass that is made in full: the iterator hands out an element and leaves the machine as `m`,
and then the body is rendered for the element. -/
def Passes (previous : Option (List String)) (s : Session) (m : Machine)
    (previous' : Option (List String)) (t : Session) : Prop :=
  ∃ v limit, next c.elements s.machine = .ok (some v) m ∧
    c.passFor e limit previous v { s with machine := m } = .ok previous' t

/-- Where a block is after a number of passes: what the next pass is compared with, and the
session. -/
inductive After : Nat → Option (List String) → Session → Prop
  | zero : After 0 none c.start
  | succ {k : Nat} {previous previous' : Option (List String)} {s t : Session} {m : Machine} :
    After k previous s → c.Passes e previous s m previous' t → After (k + 1) previous' t

/-- The block makes at least `k` passes in full. -/
def Makes (k : Nat) : Prop := ∃ previous s, c.After e k previous s

/-- Pass `k` of the block gains elements: when it is over, the iterator has more left than when the
pass began. -/
def Gains (k : Nat) : Prop :=
  ∃ previous s m previous' t, c.After e k previous s ∧ c.Passes e previous s m previous' t ∧
    left m c.elements < left t.machine c.elements

variable {e : Evaluator} {c : Course} {k j limit fuel : Nat}
  {previous previous' : Option (List String)} {s t : Session} {m : Machine} {v : Value}

theorem delaying_passFor (previous : Option (List String)) (v : Value) :
    Delaying fun limit => c.passFor e limit previous v :=
  Node.delaying_pass e c.loop c.body previous v

theorem passesFrom_of_next (h : next c.elements s.machine = .ok (some v) m) :
    c.passesFrom e limit (fuel + 1) previous s =
      (c.passFor e limit previous v >>= c.passesFrom e limit fuel) { s with machine := m } :=
  passes_of_some h

theorem After.makes (h : c.After e k previous s) (hj : j ≤ k) : c.Makes e j := by
  induction h with
  | zero =>
    obtain rfl := Nat.le_zero.mp hj
    exact ⟨none, c.start, .zero⟩
  | @succ k _ previous _ t _ hk hpass ih =>
    rcases Nat.lt_or_eq_of_le hj with hlt | rfl
    · exact ih (Nat.le_of_lt_succ hlt)
    · exact ⟨previous, t, hk.succ hpass⟩

/-- Passes go one way only. -/
theorem After.unique {t : Session} (h : c.After e k previous s) (h' : c.After e k previous' t) :
    previous = previous' ∧ s = t := by
  induction h generalizing previous' t with
  | zero =>
    cases h'
    exact ⟨rfl, rfl⟩
  | succ _ hpass ih =>
    cases h' with
    | succ hk' hpass' =>
      obtain ⟨rfl, rfl⟩ := ih hk'
      obtain ⟨v, limit, hnext, hrun⟩ := hpass
      obtain ⟨v', limit', hnext', hrun'⟩ := hpass'
      cases hnext.symm.trans hnext'
      exact (delaying_passFor _ v).unique hrun hrun'

/-! ## What the passes come to under a limit -/

/-- Under any limit the passes up to a point lead there, or the run has been cut on the way. -/
theorem After.cut_or_eq (h : c.After e k previous t) (limit fuel : Nat) :
    Cut (c.passesFrom e limit (k + fuel) none c.start) ∨
      c.passesFrom e limit (k + fuel) none c.start = c.passesFrom e limit fuel previous t := by
  induction h generalizing fuel with
  | zero =>
    rw [Nat.zero_add]
    exact .inr rfl
  | @succ k previous previous' s t m _ hpass ih =>
    obtain ⟨v, limit', hnext, hrun⟩ := hpass
    rw [Nat.add_assoc, Nat.add_comm 1]
    rcases ih (fuel + 1) with hcut | heq
    · exact .inl hcut
    · rw [heq, passesFrom_of_next hnext]
      rcases (delaying_passFor previous v).cut_or_eq hrun limit with hcut | hrun
      · exact .inl (cut_bind_iff.mpr (.inl hcut))
      · exact .inr (bind_of_ok hrun)

/-- A limit that is high enough leads to a point that the passes come to. -/
theorem After.eq_of_high (h : c.After e k previous t) :
    ∃ high, ∀ limit, high ≤ limit → ∀ fuel,
      c.passesFrom e limit (k + fuel) none c.start = c.passesFrom e limit fuel previous t := by
  induction h with
  | zero => exact ⟨0, fun limit _ fuel => by rw [Nat.zero_add]⟩
  | @succ k previous previous' s t m _ hpass ih =>
    obtain ⟨v, limit', hnext, hrun⟩ := hpass
    obtain ⟨high, hhigh⟩ := ih
    refine ⟨max high limit', fun limit hlimit fuel => ?_⟩
    have hrun' := (delaying_passFor previous v limit' limit (by omega)).eq_of_ok hrun
    rw [Nat.add_assoc, Nat.add_comm 1, hhigh limit (by omega), passesFrom_of_next hnext,
      bind_of_ok hrun']

theorem After.cut_of_limit (h : c.After e limit previous t) :
    Cut (c.passesFrom e limit limit none c.start) := by
  rcases h.cut_or_eq limit 0 with hcut | heq
  · exact hcut
  · exact ⟨t, heq⟩

/-- A block without a last pass is cut under every limit. -/
theorem cut_of_makes (h : ∀ k, c.Makes e k) (limit : Nat) :
    Cut (c.passesFrom e limit limit none c.start) := by
  obtain ⟨previous, t, hafter⟩ := h limit
  exact hafter.cut_of_limit

/-- A block with a pass that is cut under every limit is cut under every limit. -/
theorem After.cut_of_pass (h : c.After e k previous t)
    (hnext : next c.elements t.machine = .ok (some v) m)
    (hpass : ∀ limit, Cut (c.passFor e limit previous v { t with machine := m })) (limit : Nat) :
    Cut (c.passesFrom e limit limit none c.start) := by
  by_cases hlimit : limit ≤ k
  · obtain ⟨_, _, hafter⟩ := h.makes hlimit
    exact hafter.cut_of_limit
  · obtain ⟨fuel, hfuel⟩ : ∃ fuel, limit = k + (fuel + 1) := ⟨limit - k - 1, by omega⟩
    have hreached := h.cut_or_eq limit (fuel + 1)
    rw [← hfuel] at hreached
    rcases hreached with hcut | heq
    · exact hcut
    · rw [heq, passesFrom_of_next hnext]
      exact cut_bind_iff.mpr (.inl (hpass limit))

/-- A block that is cut under every limit has no last pass, or a pass that is cut under every
limit. -/
theorem makes_or_pass_of_cut (h : ∀ limit, Cut (c.passesFrom e limit limit none c.start)) :
    (∀ k, c.Makes e k) ∨
      ∃ k previous t v m, c.After e k previous t ∧
        next c.elements t.machine = .ok (some v) m ∧
        ∀ limit, Cut (c.passFor e limit previous v { t with machine := m }) := by
  refine or_iff_not_imp_left.mpr fun hnot => ?_
  -- The first pass that is not made in full.
  obtain ⟨k, ⟨previous, t, hk⟩, hlast⟩ : ∃ k, c.Makes e k ∧ ¬c.Makes e (k + 1) := by
    by_contra hall
    push Not at hall
    exact hnot fun k => Nat.rec ⟨none, c.start, .zero⟩ hall k
  obtain ⟨high, hhigh⟩ := hk.eq_of_high
  have hcut (fuel : Nat) (hfuel : high ≤ fuel) :
      Cut (c.passesFrom e (k + (fuel + 1)) (fuel + 1) previous t) := by
    rw [← hhigh (k + (fuel + 1)) (by omega) (fuel + 1)]
    exact h _
  obtain ⟨v, m, hnext⟩ : ∃ v m, next c.elements t.machine = .ok (some v) m := by
    have hfirst := hcut high (Nat.le_refl high)
    cases hnext : next c.elements t.machine with
    | ok found m =>
      cases found with
      | some v => exact ⟨v, m, rfl⟩
      | none =>
        rw [passesFrom, passes_of_none hnext] at hfirst
        exact absurd hfirst (not_cut_ok _ _)
    | error f m =>
      rw [passesFrom, passes, bind_of_error (act_of_error hnext), cut_error_iff] at hfirst
      cases hfirst
  refine ⟨k, previous, t, v, m, hk, hnext, fun limit => ?_⟩
  have hlater := hcut (max high limit) (Nat.le_max_left high limit)
  rw [passesFrom_of_next hnext] at hlater
  rcases cut_bind_iff.mp hlater with hpass | ⟨previous', t', hpass, -⟩
  · exact (delaying_passFor previous v).cut_of_le (by omega) hpass
  · exact absurd ⟨previous', t', hk.succ ⟨v, _, hnext, hpass⟩⟩ hlast

/-! ## Gaining elements -/

/-- A pass that gains nothing leaves the iterator with less than it had before the pass. -/
theorem Passes.left_lt (h : c.Passes e previous s m previous' t) (hk : c.After e k previous s)
    (hgain : ¬c.Gains e k) : left t.machine c.elements < left s.machine c.elements := by
  have hle : left t.machine c.elements ≤ left m c.elements :=
    Nat.le_of_not_lt fun hlt => hgain ⟨_, _, _, _, _, hk, h, hlt⟩
  obtain ⟨_, _, hnext, -⟩ := h
  exact Nat.lt_of_le_of_lt hle ((next_drawn _ _).less _ _ hnext)

/-- Passes that gain nothing use up the iterator, one element each. -/
theorem After.left_add_le (hk : c.After e k previous s) (hgain : ∀ i ≥ k, ¬c.Gains e i)
    (h : c.After e (k + j) previous' t) :
    left t.machine c.elements + j ≤ left s.machine c.elements := by
  induction j generalizing previous' t with
  | zero =>
    obtain ⟨-, rfl⟩ := hk.unique h
    exact Nat.le_refl _
  | succ j ih =>
    cases h with
    | succ hj hpass =>
      have hlt := hpass.left_lt hj (hgain (k + j) (Nat.le_add_right k j))
      have hle := ih hj
      omega

/-- **A block that makes passes without end gains elements without end.** -/
theorem makes_iff_gains : (∀ k, c.Makes e k) ↔ ∀ k, ∃ j ≥ k, c.Gains e j := by
  constructor
  · intro hmakes k
    by_contra hnot
    push Not at hnot
    obtain ⟨previous, s, hk⟩ := hmakes k
    obtain ⟨previous', t, hlater⟩ := hmakes (k + (left s.machine c.elements + 1))
    have hle := hk.left_add_le hnot hlater
    omega
  · intro hgains k
    obtain ⟨j, hj, _, _, _, _, _, hafter, -, -⟩ := hgains k
    exact hafter.makes hj

end Course

/-! ## The blocks that a run comes to -/

/-- A block comes to run through the elements of its value. -/
def Opens (e : Evaluator) (loop : LoopHeader) (ns : List Node) (s : Session) (c : Course) : Prop :=
  ∃ text v m r m', loop.expression = some text ∧ s.scope.evaluate e text s.machine = .ok v m ∧
    elementsOf v m = .ok r m' ∧ c = ⟨loop, ns, r, { s with machine := m' }⟩

theorem Opens.blockNode_eq {e : Evaluator} {loop : LoopHeader} {ns : List Node} {s : Session}
    {c : Course} (h : Opens e loop ns s c) (limit : Nat) :
    blockNode e limit loop (Node.renderAll e limit ns) s =
      c.passesFrom e limit limit none c.start := by
  obtain ⟨text, v, m, r, m', hexpression, hvalue, helements, rfl⟩ := h
  rw [blockNode_of_ok hexpression hvalue, bind_of_ok (act_of_ok helements)]
  rfl

section Coming

variable (e : Evaluator) (c : Course)

mutual

/-- Rendering a node from a session comes to the block `c` on its way. -/
inductive RunsInto : Node → Session → Prop
  | list {description : String} {ns : List Node} {s : Session} :
    RunsIntoAll ns s → RunsInto (.list description ns) s
  | once {loop : LoopHeader} {ns : List Node} {s : Session} :
    loop.expression = none → RunsIntoAll ns { s with scope := s.scope.enter } →
    RunsInto (.block loop ns) s
  | here {loop : LoopHeader} {ns : List Node} {s : Session} :
    Opens e loop ns s c → RunsInto (.block loop ns) s
  /-- After some passes of a block its body is rendered for an element. -/
  | inside {loop : LoopHeader} {ns : List Node} {s t u : Session} {outer : Course} {k : Nat}
      {previous : Option (List String)} {v : Value} {m : Machine} :
    Opens e loop ns s outer → outer.After e k previous t →
    next outer.elements t.machine = .ok (some v) m →
    enterPass loop.name v { t with machine := m } = .ok () u →
    RunsIntoAll ns (loop.within u) → RunsInto (.block loop ns) s

/-- Rendering nodes one after the other comes to the block `c` on its way. -/
inductive RunsIntoAll : List Node → Session → Prop
  | head {n : Node} {ns : List Node} {s : Session} : RunsInto n s → RunsIntoAll (n :: ns) s
  | tail {n : Node} {ns : List Node} {s t : Session} {limit : Nat} :
    n.render e limit s = .ok () t → RunsIntoAll ns t → RunsIntoAll (n :: ns) s

end

end Coming

/-- A level without an element is cut only in its body. -/
theorem cut_once_iff {e : Evaluator} {limit : Nat} {loop : LoopHeader} {body : Render Unit}
    {s : Session} (h : loop.expression = none) :
    Cut (blockNode e limit loop body s) ↔ Cut (body { s with scope := s.scope.enter }) := by
  rw [blockNode_of_once h, cut_nested_iff, enterPass_of_unnamed rfl]
  constructor
  · rintro ⟨u, hu, hcut⟩
    cases hu
    exact hcut
  · exact fun hcut => ⟨_, rfl, hcut⟩

section Cutting

variable {e : Evaluator}

mutual

/-- A run that comes to a block without a last pass is cut under every limit. -/
theorem RunsInto.cut {c : Course} {n : Node} {s : Session} (h : RunsInto e c n s)
    (hmakes : ∀ k, c.Makes e k) (limit : Nat) : Cut (n.render e limit s) := by
  cases h with
  | list hns => exact hns.cut hmakes limit
  | once hexpression hns => exact (cut_once_iff hexpression).mpr (hns.cut hmakes limit)
  | here hopens =>
    rw [Node.render, hopens.blockNode_eq limit]
    exact Course.cut_of_makes hmakes limit
  | @inside loop ns _ t u outer k previous v m hopens hafter hnext henter hns =>
    rw [Node.render, hopens.blockNode_eq limit]
    refine hafter.cut_of_pass hnext (fun limit => ?_) limit
    obtain ⟨text, w, m₁, r, m₂, -, -, -, rfl⟩ := hopens
    exact cut_pass_iff.mpr ⟨u, henter, hns.cut hmakes limit⟩

theorem RunsIntoAll.cut {c : Course} {ns : List Node} {s : Session} (h : RunsIntoAll e c ns s)
    (hmakes : ∀ k, c.Makes e k) (limit : Nat) : Cut (Node.renderAll e limit ns s) := by
  cases h with
  | head hn => exact cut_bind_iff.mpr (.inl (hn.cut hmakes limit))
  | @tail n ns _ t limit' hrun hns =>
    rcases (Node.delaying_render e n).cut_or_eq hrun limit with hcut | hrun
    · exact cut_bind_iff.mpr (.inl hcut)
    · exact cut_bind_iff.mpr (.inr ⟨(), t, hrun, hns.cut hmakes limit⟩)

end

/-- A block that is cut under every limit has found its elements. -/
theorem opens_of_cut {loop : LoopHeader} {ns : List Node} {text : String} {s : Session}
    (hexpression : loop.expression = some text)
    (h : ∃ limit, Cut (blockNode e limit loop (Node.renderAll e limit ns) s)) :
    ∃ c, Opens e loop ns s c := by
  obtain ⟨limit, hcut⟩ := h
  cases hvalue : s.scope.evaluate e text s.machine with
  | ok v m =>
    obtain ⟨r, m', helements⟩ := Safe.elementsOf v m
    exact ⟨_, text, v, m, r, m', hexpression, hvalue, helements, rfl⟩
  | error f m =>
    rw [blockNode_of_error hexpression hvalue] at hcut
    exact absurd hcut (not_cut_ok _ _)

mutual

/-- A run that is cut under every limit comes to a block without a last pass. -/
theorem Node.runsInto_of_cut (n : Node) {s : Session} (h : ∀ limit, Cut (n.render e limit s)) :
    ∃ c, RunsInto e c n s ∧ ∀ k, c.Makes e k := by
  cases n with
  | list description ns =>
    obtain ⟨c, hcomes, hmakes⟩ := Node.runsIntoAll_of_cut ns h
    exact ⟨c, .list hcomes, hmakes⟩
  | block loop ns =>
    cases hexpression : loop.expression with
    | none =>
      obtain ⟨c, hcomes, hmakes⟩ :=
        Node.runsIntoAll_of_cut ns fun limit => (cut_once_iff hexpression).mp (h limit)
      exact ⟨c, .once hexpression hcomes, hmakes⟩
    | some text =>
      obtain ⟨c, hopens⟩ := opens_of_cut hexpression ⟨0, h 0⟩
      have hcut (limit : Nat) : Cut (c.passesFrom e limit limit none c.start) := by
        rw [← hopens.blockNode_eq limit]
        exact h limit
      rcases Course.makes_or_pass_of_cut hcut with
        hmakes | ⟨k, previous, t, v, m, hafter, hnext, hpass⟩
      · exact ⟨c, .here hopens, hmakes⟩
      · have hbody (limit : Nat) : ∃ u, enterPass loop.name v { t with machine := m } = .ok () u ∧
            Cut (Node.renderAll e limit ns (loop.within u)) := by
          have hlimit := hpass limit
          obtain ⟨_, _, _, _, _, -, -, -, rfl⟩ := hopens
          exact cut_pass_iff.mp hlimit
        obtain ⟨u, henter, -⟩ := hbody 0
        obtain ⟨c', hcomes, hmakes⟩ := Node.runsIntoAll_of_cut ns fun limit => by
          obtain ⟨u', henter', hlimit⟩ := hbody limit
          cases henter.symm.trans henter'
          exact hlimit
        exact ⟨c', .inside hopens hafter hnext henter hcomes, hmakes⟩
  | line | eval | insert | operation | error =>
    exact absurd (h 0)
      (Uncut.render_leaf (fun _ _ => Node.noConfusion) (fun _ _ => Node.noConfusion) s)

theorem Node.runsIntoAll_of_cut (ns : List Node) {s : Session}
    (h : ∀ limit, Cut (Node.renderAll e limit ns s)) :
    ∃ c, RunsIntoAll e c ns s ∧ ∀ k, c.Makes e k := by
  cases ns with
  | nil => exact absurd (h 0) (not_cut_ok () s)
  | cons n ns =>
    by_cases hn : ∀ limit, Cut (n.render e limit s)
    · obtain ⟨c, hcomes, hmakes⟩ := Node.runsInto_of_cut n hn
      exact ⟨c, .head hcomes, hmakes⟩
    · push Not at hn
      obtain ⟨high, hn⟩ := hn
      obtain ⟨t, hrun⟩ : ∃ t, n.render e high s = .ok () t := by
        rcases cut_bind_iff.mp (h high) with hcut | ⟨_, t, hrun, -⟩
        · exact absurd hcut hn
        · exact ⟨t, hrun⟩
      obtain ⟨c, hcomes, hmakes⟩ := Node.runsIntoAll_of_cut ns fun limit => by
        have hlater := h (max high limit)
        rw [Node.renderAll, bind_of_ok
          ((Node.render_outlasted n (Nat.le_max_left high limit)).eq_of_ok hrun)] at hlater
        exact (Node.delaying_renderAll e ns).cut_of_le (Nat.le_max_right high limit) hlater
      exact ⟨c, .tail hrun hcomes, hmakes⟩

end

end Cutting

/-! ## When rendering ends -/

namespace Node

/-- Rendering ends: from some limit on its runs are one and the same, and it is not cut. -/
def Ends (n : Node) (e : Evaluator) (s : Session) : Prop :=
  ∃ limit run, run.2.1 ≠ some .endless ∧ ∀ limit' ≥ limit, n.runWithin limit' e none s = run

variable {n : Node} {e : Evaluator} {limit : Nat} {s : Session}

theorem runWithin_endless_iff :
    (n.runWithin limit e none s).2.1 = some .endless ↔ Cut (n.render e limit (apart s)) := by
  have hall : (none : Option Nat) ≠ some 0 := by decide
  cases hrun : n.render e limit (apart s) with
  | ok x t =>
    rw [runWithin_of_ok none hall hrun]
    exact iff_of_false (by simp) (not_cut_ok x t)
  | error q t =>
    rw [cut_error_iff]
    by_cases hq : q = .closed
    · rw [hq] at hrun ⊢
      rw [runWithin_of_closed none hall hrun]
      exact iff_of_false (by simp) Halt.noConfusion
    · rw [runWithin_of_error none hall hq hrun]
      exact Option.some_inj

theorem ends_iff_uncut : n.Ends e s ↔ ∃ limit, ¬Cut (n.render e limit (apart s)) := by
  constructor
  · rintro ⟨limit, run, hrun, hall⟩
    refine ⟨limit, fun hcut => hrun ?_⟩
    rw [← hall limit (Nat.le_refl limit)]
    exact runWithin_endless_iff.mpr hcut
  · rintro ⟨limit, huncut⟩
    refine ⟨limit, n.runWithin limit e none s,
      fun hendless => huncut (runWithin_endless_iff.mp hendless), fun limit' hle => ?_⟩
    have hsame := (render_outlasted n hle).eq_of_uncut huncut
    rw [apart] at hsame
    rw [runWithin, runWithin, hsame]

/-- **When rendering ends.** Rendering a tree ends exactly when every block that the run comes to
makes finitely many passes. -/
theorem ends_iff_makes :
    n.Ends e s ↔ ∀ c, RunsInto e c n (apart s) → ∃ k, ¬c.Makes e k := by
  rw [ends_iff_uncut]
  constructor
  · rintro ⟨limit, huncut⟩ c hcomes
    by_contra hall
    push Not at hall
    exact huncut (hcomes.cut hall limit)
  · intro hfinite
    by_contra hall
    push Not at hall
    obtain ⟨c, hcomes, hmakes⟩ := runsInto_of_cut n hall
    obtain ⟨k, hk⟩ := hfinite c hcomes
    exact hk (hmakes k)

end Node

end Stencil
