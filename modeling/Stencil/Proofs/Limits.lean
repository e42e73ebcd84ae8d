import Stencil.Proofs.Pulling
/-!
# Stencil.Proofs.Limits -- runs that come to the limit of passes

Rendering is given a number of passes that a block may make, and a run is cut where a block wants
more. The limit does nothing else: a run that is not cut goes the same way under every higher limit,
so a result that is found under one limit is the result. A tree whose runs are cut under every limit
has none, and its rendering does not end.
-/

namespace Stencil

open Stencil.Expr Render

variable {α β : Type}

/-! ## Cut runs -/

/-- The run has come to the limit of passes. -/
def Cut (r : EStateM.Result Halt Session α) : Prop := ∃ t, r = .error .endless t

theorem not_cut_ok (x : α) (t : Session) : ¬Cut (.ok x t) := by
  rintro ⟨u, h⟩
  cases h

theorem cut_error_iff {h : Halt} {t : Session} :
    Cut (.error h t : EStateM.Result Halt Session α) ↔ h = .endless := by
  constructor
  · rintro ⟨u, hu⟩
    cases hu
    rfl
  · rintro rfl
    exact ⟨t, rfl⟩

theorem cut_bind_iff {a : Render α} {k : α → Render β} {s : Session} :
    Cut ((a >>= k) s) ↔ Cut (a s) ∨ ∃ x t, a s = .ok x t ∧ Cut (k x t) := by
  constructor
  · rintro ⟨t, h⟩
    rcases bind_eq_error_iff.mp h with ha | ⟨x, u, ha, hk⟩
    · exact .inl ⟨t, ha⟩
    · exact .inr ⟨x, u, ha, t, hk⟩
  · rintro (⟨t, ha⟩ | ⟨x, u, ha, hk⟩)
    · exact ⟨t, bind_of_error ha⟩
    · rwa [bind_of_ok ha]

theorem cut_ensuring_iff {body : Render α} {f : Scope → Scope} {s : Session} :
    Cut (ensuring body f s) ↔ Cut (body s) := by
  cases hrun : body s with
  | ok v t =>
    rw [ensuring_of_ok hrun]
    exact iff_of_false (not_cut_ok _ _) (not_cut_ok _ _)
  | error h t =>
    rw [ensuring_of_error hrun, cut_error_iff, cut_error_iff]

theorem cut_collecting_iff {body : Render Unit} {s : Session} :
    Cut (collecting body s) ↔ Cut (body (apart s)) := by
  cases hrun : body (apart s) with
  | ok v t =>
    rw [collecting_of_ok hrun]
    exact iff_of_false (not_cut_ok _ _) (not_cut_ok _ _)
  | error h t =>
    rw [collecting_of_error hrun, cut_error_iff, cut_error_iff]

/-! ## Steps that make no passes -/

/-- Rendering that never comes to the limit of passes. -/
def Uncut (a : Render α) : Prop := ∀ s, ¬Cut (a s)

namespace Uncut

theorem pure (x : α) : Uncut (pure x : Render α) := fun s => not_cut_ok x s

theorem bind {a : Render α} {k : α → Render β} (ha : Uncut a) (hk : ∀ x, Uncut (k x)) :
    Uncut (a >>= k) := by
  intro s h
  rcases cut_bind_iff.mp h with hcut | ⟨x, t, -, hcut⟩
  · exact ha s hcut
  · exact hk x t hcut

theorem act (a : Act α) : Uncut (act a) := by
  intro s
  cases hrun : a s.machine with
  | ok v m =>
    rw [act_of_ok hrun]
    exact not_cut_ok _ _
  | error f m =>
    rw [act_of_error hrun, cut_error_iff]
    exact Halt.noConfusion

theorem attempt (a : Act α) : Uncut (attempt a) := by
  intro s
  cases hrun : a s.machine with
  | ok v m =>
    rw [attempt_of_ok hrun]
    exact not_cut_ok _ _
  | error f m =>
    rw [attempt_of_error hrun]
    exact not_cut_ok _ _

theorem stepwise : Stepwise @Uncut where
  pure := pure
  bind := bind
  act := act
  attempt := attempt
  currentScope := fun s => not_cut_ok s.scope s
  modifyScope _ := fun _ => not_cut_ok _ _
  report _ _ _ := fun _ => not_cut_ok _ _

theorem emit (text : String) : Uncut (emit text) := by
  intro s
  rw [emit_apply]
  split
  · rw [cut_error_iff]
    exact Halt.noConfusion
  · exact not_cut_ok _ _

theorem emitAll (texts : List String) : Uncut (emitAll texts) := by
  induction texts with
  | nil => exact pure ()
  | cons text texts ih => exact (emit text).bind fun _ => ih

theorem evaluation (e : Evaluator) (text : String) : Uncut (evaluation e text) :=
  stepwise.currentScope.bind fun _ => attempt _

theorem insertNode (e : Evaluator) (text indent : String) : Uncut (insertNode e text indent) := by
  rw [insertNode_eq]
  refine (evaluation e text).bind fun found => ?_
  cases found with
  | error f => exact stepwise.recordError _
  | ok v => exact (act _).bind fun _ => emitAll _

/-- A node that is no block and has none below it makes no passes. -/
theorem render_leaf {e : Evaluator} {limit : Nat} {n : Node}
    (hlist : ∀ description ns, n ≠ .list description ns) (hblock : ∀ loop ns, n ≠ .block loop ns) :
    Uncut (n.render e limit) := by
  cases n with
  | list description ns => exact absurd rfl (hlist description ns)
  | block loop ns => exact absurd rfl (hblock loop ns)
  | line text => exact (stepwise.filterLine e text).bind emit
  | eval text => exact stepwise.executeNode e text
  | insert text indent => exact insertNode e text indent
  | operation description actions => exact stepwise.perform description _
  | error message => exact stepwise.recordError message

end Uncut

section Passing

variable {body : Render Unit} {loop : LoopHeader} {name : Option String} {v : Value} {s : Session}

/-- A level is cut only in its body. -/
theorem cut_nested_iff {body : Render α} :
    Cut (nested name v body s) ↔ ∃ u, enterPass name v s = .ok () u ∧ Cut (body u) := by
  rw [nested, cut_bind_iff]
  constructor
  · rintro (hcut | ⟨_, u, hu, hcut⟩)
    · exact absurd hcut (Uncut.stepwise.enterPass name v s)
    · exact ⟨u, hu, cut_ensuring_iff.mp hcut⟩
  · rintro ⟨u, hu, hcut⟩
    exact .inr ⟨(), u, hu, cut_ensuring_iff.mpr hcut⟩

/-- The session in which the body of a pass is rendered. -/
def LoopHeader.within (loop : LoopHeader) (u : Session) : Session :=
  if loop.collapse then apart u else u

/-- A pass is cut only in its body. -/
theorem cut_pass_iff {previous : Option (List String)} :
    Cut (pass loop body previous v s) ↔
      ∃ u, enterPass loop.name v s = .ok () u ∧ Cut (body (loop.within u)) := by
  have hrest (lines : List String) : Uncut (if (some lines == previous) = true then do
      report .tree .debug ("Collapsing repeated pass of " ++ loop.shown)
      return previous
    else do
      emitAll lines
      return some lines : Render (Option (List String))) := by
    split
    · exact (Uncut.stepwise.report _ _ _).bind fun _ => .pure _
    · exact (Uncut.emitAll lines).bind fun _ => .pure _
  by_cases hcollapse : loop.collapse = true
  · have hwithin (u : Session) : loop.within u = apart u := if_pos hcollapse
    simp only [Render.pass, if_pos hcollapse, cut_bind_iff, cut_nested_iff, cut_collecting_iff,
      hwithin]
    refine or_iff_left ?_
    rintro ⟨lines, t, -, hcut⟩
    exact hrest lines t hcut
  · have hwithin (u : Session) : loop.within u = u := if_neg hcollapse
    simp only [Render.pass, if_neg hcollapse, cut_bind_iff, cut_nested_iff, hwithin]
    refine or_iff_left ?_
    rintro ⟨_, t, -, hcut⟩
    exact Uncut.pure _ t hcut

end Passing

/-! ## Higher limits -/

/-- The second of two runs is cut later, if at all: where the first is not cut, it is the same. -/
def Outlasted (a a' : Render α) : Prop := ∀ s, Cut (a s) ∨ a' s = a s

namespace Outlasted

variable {a a' : Render α} {s : Session}

theorem refl (a : Render α) : Outlasted a a := fun _ => .inr rfl

theorem eq_of_uncut (h : Outlasted a a') (hs : ¬Cut (a s)) : a' s = a s := (h s).resolve_left hs

theorem eq_of_ok (h : Outlasted a a') {x : α} {t : Session} (hs : a s = .ok x t) :
    a' s = .ok x t := by
  rw [h.eq_of_uncut (hs ▸ not_cut_ok x t), hs]

theorem cut (h : Outlasted a a') (hs : Cut (a' s)) : Cut (a s) := by
  rcases h s with hcut | heq
  · exact hcut
  · rwa [← heq]

theorem bind {k k' : α → Render β} (h : Outlasted a a') (hk : ∀ x, Outlasted (k x) (k' x)) :
    Outlasted (a >>= k) (a' >>= k') := by
  intro s
  cases hrun : a s with
  | ok x t =>
    rw [bind_of_ok hrun, bind_of_ok (h.eq_of_ok hrun)]
    exact hk x t
  | error q t =>
    rcases h s with hcut | heq
    · exact .inl (cut_bind_iff.mpr (.inl hcut))
    · rw [bind_of_error hrun, bind_of_error (heq.trans hrun)]
      exact .inr rfl

theorem ensuring (h : Outlasted a a') (f : Scope → Scope) :
    Outlasted (ensuring a f) (ensuring a' f) := by
  intro s
  rcases h s with hcut | heq
  · exact .inl (cut_ensuring_iff.mpr hcut)
  · rw [ensuring_apply, ensuring_apply, heq]
    exact .inr rfl

section Blocks

variable {body body' : Render Unit} {loop : LoopHeader}

theorem collecting (h : Outlasted body body') :
    Outlasted (collecting body) (collecting body') := by
  intro s
  rcases h (apart s) with hcut | heq
  · exact .inl (cut_collecting_iff.mpr hcut)
  · rw [apart] at heq
    rw [Render.collecting, Render.collecting, heq]
    exact .inr rfl

theorem nested (h : Outlasted a a') (name : Option String) (v : Value) :
    Outlasted (nested name v a) (nested name v a') :=
  (refl _).bind fun _ => h.ensuring _

theorem pass (h : Outlasted body body') (loop : LoopHeader) (previous : Option (List String))
    (v : Value) : Outlasted (pass loop body previous v) (pass loop body' previous v) := by
  rw [Render.pass, Render.pass]
  split
  · exact (h.collecting.nested _ _).bind fun _ => refl _
  · exact (h.nested _ _).bind fun _ => refl _

theorem passes (h : Outlasted body body') (loop : LoopHeader) (r : Ref) {fuel fuel' : Nat}
    (hle : fuel ≤ fuel') (previous : Option (List String)) :
    Outlasted (passes loop r body fuel previous) (passes loop r body' fuel' previous) := by
  induction fuel generalizing fuel' previous with
  | zero => exact fun s => .inl ⟨s, rfl⟩
  | succ fuel ih =>
    obtain ⟨fuel', rfl⟩ : ∃ k, fuel' = k + 1 := ⟨fuel' - 1, by omega⟩
    refine (refl _).bind fun found => ?_
    cases found with
    | none => exact refl _
    | some v => exact (h.pass loop previous v).bind fun _ => ih (Nat.le_of_succ_le_succ hle) _

theorem blockNode {limit limit' : Nat} (h : Outlasted body body') (hle : limit ≤ limit')
    (e : Evaluator) (loop : LoopHeader) :
    Outlasted (blockNode e limit loop body) (blockNode e limit' loop body') := by
  rw [blockNode_eq, blockNode_eq]
  split
  · exact h.nested _ _
  · refine (refl _).bind fun found => ?_
    cases found with
    | error f => exact refl _
    | ok v => exact (refl _).bind fun r => h.passes loop r hle none

end Blocks

end Outlasted

/-- Rendering under a limit that is only delayed by higher limits. -/
def Delaying (a : Nat → Render α) : Prop :=
  ∀ limit limit', limit ≤ limit' → Outlasted (a limit) (a limit')

namespace Delaying

variable {a : Nat → Render α} {limit limit' : Nat} {s t t' : Session} {x x' : α}

/-- Under another limit the run is the same, or it is cut. -/
theorem cut_or_eq (h : Delaying a) (hs : a limit s = .ok x t) (limit' : Nat) :
    Cut (a limit' s) ∨ a limit' s = .ok x t := by
  rcases Nat.le_total limit limit' with hle | hle
  · exact .inr ((h limit limit' hle).eq_of_ok hs)
  · rcases h limit' limit hle s with hcut | heq
    · exact .inl hcut
    · exact .inr (heq ▸ hs)

/-- Whatever the limits are, there is one result. -/
theorem unique (h : Delaying a) (hs : a limit s = .ok x t) (hs' : a limit' s = .ok x' t') :
    x = x' ∧ t = t' := by
  rcases h.cut_or_eq hs limit' with ⟨u, hcut⟩ | heq
  · cases hcut.symm.trans hs'
  · cases heq.symm.trans hs'
    exact ⟨rfl, rfl⟩

theorem cut_of_le (h : Delaying a) (hle : limit ≤ limit') (hs : Cut (a limit' s)) :
    Cut (a limit s) := (h limit limit' hle).cut hs

end Delaying

namespace Node

variable {e : Evaluator} {limit limit' : Nat}

mutual

/-- **A higher limit only delays.** A node that is not cut under a limit is rendered in the same way
under every higher one. -/
theorem render_outlasted (n : Node) (hle : limit ≤ limit') :
    Outlasted (n.render e limit) (n.render e limit') := by
  cases n with
  | list _ ns => exact renderAll_outlasted ns hle
  | block loop ns => exact (renderAll_outlasted ns hle).blockNode hle e loop
  | _ => exact .refl _

theorem renderAll_outlasted (ns : List Node) (hle : limit ≤ limit') :
    Outlasted (renderAll e limit ns) (renderAll e limit' ns) := by
  cases ns with
  | nil => exact .refl _
  | cons n ns => exact (render_outlasted n hle).bind fun _ => renderAll_outlasted ns hle

end

theorem delaying_render (e : Evaluator) (n : Node) : Delaying fun limit => n.render e limit :=
  fun _ _ => render_outlasted n

theorem delaying_renderAll (e : Evaluator) (ns : List Node) :
    Delaying fun limit => renderAll e limit ns := fun _ _ => renderAll_outlasted ns

theorem delaying_pass (e : Evaluator) (loop : LoopHeader) (ns : List Node)
    (previous : Option (List String)) (v : Value) :
    Delaying fun limit => pass loop (renderAll e limit ns) previous v :=
  fun _ _ hle => (renderAll_outlasted ns hle).pass loop previous v

end Node

end Stencil
