import Stencil.Proofs.Errors
/-!
# Stencil.Proofs.Containment -- which failures end rendering

Rendering meets failures in many places: where a line goes through the rules, where a statement is
executed, where an expression is evaluated, where an operation acts. These are recorded, and what
follows is rendered as if the node had done nothing. Two tasks stand outside of that: finding the
text of a value that an expression already has, and asking a running iterator for its next element.
Their failures leave the tree. `Reaches` says which tasks a run of a tree comes to, and the main
result says that this is all: a run fails exactly where it comes to such a task and the task fails,
and every other failure it comes to stands among the errors in the end.
-/

namespace Stencil

open Stencil.Expr Render

/-! ## What cannot fail -/

/-- An action that never fails. -/
def Safe {α : Type} (a : Act α) : Prop := ∀ m, ∃ v m', a m = .ok v m'

namespace Safe

variable {α β : Type}

theorem pure (v : α) : Safe (pure v) := fun m => ⟨v, m, rfl⟩

theorem bind {a : Act α} {f : α → Act β} (ha : Safe a) (hf : ∀ v, Safe (f v)) :
    Safe (a >>= f) := by
  intro m
  obtain ⟨v, m', h⟩ := ha m
  rw [bind_of_ok h]
  exact hf v m'

theorem get : Safe (get : Act Machine) := fun m => ⟨m, m, rfl⟩

theorem alloc (c : Cell) : Safe (alloc c) := fun _ => ⟨_, _, rfl⟩

theorem newIter (kind : TypeTag) (it : Iter) : Safe (newIter kind it) :=
  (alloc _).bind fun _ => pure _

theorem listItems (r : Ref) : Safe (listItems r) := by
  refine get.bind fun m => ?_
  split <;> exact pure _

theorem dictTable (r : Ref) : Safe (dictTable r) := by
  refine get.bind fun m => ?_
  split <;> exact pure _

theorem setTable (r : Ref) : Safe (setTable r) := by
  refine get.bind fun m => ?_
  split <;> exact pure _

theorem dictEntries (r : Ref) : Safe (dictEntries r) := (dictTable r).bind fun _ => pure _

theorem setMembers (r : Ref) : Safe (setMembers r) := (setTable r).bind fun _ => pure _

theorem size? (v : Value) : Safe (size? v) := by
  cases v with
  | list r => exact (listItems r).bind fun _ => pure _
  | dict r => exact (dictEntries r).bind fun _ => pure _
  | view _ r => exact (dictEntries r).bind fun _ => pure _
  | set r => exact (setMembers r).bind fun _ => pure _
  | _ => exact pure _

theorem truthy (v : Value) : Safe (truthy v) := by
  have hsize : Safe (do return (← Expr.size? v) != some 0) := (size? v).bind fun _ => pure _
  cases v with
  | none | bool | int | float | complex | str => exact pure _
  | _ => exact hsize

theorem iter? (v : Value) : Safe (iter? v) := by
  cases v with
  | list | tuple | str | bytes | range => exact (newIter _ _).bind fun _ => pure _
  | dict r => exact (dictTable r).bind fun _ => (newIter _ _).bind fun _ => pure _
  | view kind r => exact (dictTable r).bind fun _ => (newIter _ _).bind fun _ => pure _
  | set r => exact (setTable r).bind fun _ => (newIter _ _).bind fun _ => pure _
  | _ => exact pure _

/-- Finding the elements of a value does not fail, whatever the value is. -/
theorem elementsOf (v : Value) : Safe (elementsOf v) := by
  have hsingle : Safe (do
      let it := Iter.fixed (if ← Expr.truthy v then [v] else [])
      Expr.alloc (.iterator it)) := (truthy v).bind fun _ => alloc _
  cases v with
  | none => exact alloc _
  | str | bytes => exact hsingle
  | _ =>
    unfold Render.elementsOf
    refine (iter? _).bind fun found => ?_
    split
    · exact pure _
    · exact hsingle

end Safe

/-! ## Tasks and their failures -/

/-- What rendering does that can fail. -/
inductive Task where
  /-- Send a line through the rules. -/
  | line (text : String)
  | statement (text : String)
  /-- Evaluate an expression; `shown` is how its node names it. -/
  | expression (shown text : String)
  | action (description : String) (a : Action)
  /-- Find the text of a value: of an inserted one, or of the element of a pass. -/
  | textOf (v : Value)
  /-- Ask an iterator for its next element. -/
  | element (r : Ref)

namespace Task

/-- The task fails in a session. -/
def FailsWith (e : Evaluator) (s : Session) (f : Failure) : Task → Prop
  | line text => ∃ m, s.scope.filterOrFail e text s.machine = .error f m
  | statement text => ∃ m, e.execute s.scope.bindings text s.machine = .error f m
  | expression _ text => ∃ m, s.scope.evaluate e text s.machine = .error f m
  | action _ a => a.apply s.scope = .error f
  | textOf v => ∃ m, asText v s.machine = .error f m
  | element r => ∃ m, next r s.machine = .error f m

/-- The error that is recorded for a failure of the task, or none where the failure is not caught. -/
def record (f : Failure) : Task → Option String
  | line _ => some f.messageOrKind
  | statement text => some ("!" ++ text ++ ": " ++ f.describe)
  | expression shown _ => some (shown ++ ": " ++ f.describe)
  | action description _ => some (description ++ ": " ++ f.describe)
  | textOf _ | element _ => none

end Task

/-! ## The tasks a run comes to -/

section Reaching

variable (e : Evaluator) (limit : Nat)

mutual

/-- Rendering a node from a session comes to a task, in the second session. -/
inductive Reaches : Node → Session → Task → Session → Prop
  | list {description : String} {ns : List Node} {s s' : Session} {k : Task} :
    ReachesAll ns s k s' → Reaches (.list description ns) s k s'
  | line {text : String} {s : Session} : Reaches (.line text) s (.line text) s
  | eval {text : String} {s : Session} : Reaches (.eval text) s (.statement text) s
  | insert {text indent : String} {s : Session} :
    Reaches (.insert text indent) s (.expression (">" ++ text) text) s
  | inserted {text indent : String} {s : Session} {v : Value} {m : Machine} :
    s.scope.evaluate e text s.machine = .ok v m →
    Reaches (.insert text indent) s (.textOf v) { s with machine := m }
  /-- An operation comes to an action when all actions before it have been done. -/
  | operation {description : String} {before after : List Action} {a : Action} {s : Session}
      {scope : Scope} :
    before.foldlM (fun t b => b.apply t) s.scope = .ok scope →
    Reaches (.operation description (some (before ++ a :: after))) s (.action description a)
      { s with scope := scope }
  | header {loop : LoopHeader} {ns : List Node} {text : String} {s : Session} :
    loop.expression = some text →
    Reaches (.block loop ns) s (.expression loop.shown text) s
  | once {loop : LoopHeader} {ns : List Node} {s s' : Session} {k : Task} :
    loop.expression = none →
    ReachesAll ns { s with scope := s.scope.enter } k s' →
    Reaches (.block loop ns) s k s'
  | loop {loop : LoopHeader} {ns : List Node} {text : String} {s s' : Session} {k : Task} {v : Value}
      {m m' : Machine} {r : Ref} :
    loop.expression = some text →
    s.scope.evaluate e text s.machine = .ok v m →
    elementsOf v m = .ok r m' →
    ReachesPasses loop ns r limit none { s with machine := m' } k s' →
    Reaches (.block loop ns) s k s'

/-- Rendering nodes one after the other comes to a task. -/
inductive ReachesAll : List Node → Session → Task → Session → Prop
  | head {n : Node} {ns : List Node} {s s' : Session} {k : Task} :
    Reaches n s k s' → ReachesAll (n :: ns) s k s'
  | tail {n : Node} {ns : List Node} {s t s' : Session} {k : Task} :
    n.render e limit s = .ok () t →
    ReachesAll ns t k s' → ReachesAll (n :: ns) s k s'

/-- The passes of a block come to a task. -/
inductive ReachesPasses : LoopHeader → List Node → Ref → Nat → Option (List String) → Session →
    Task → Session → Prop
  | element {loop : LoopHeader} {ns : List Node} {r : Ref} {fuel : Nat}
      {previous : Option (List String)} {s : Session} :
    ReachesPasses loop ns r (fuel + 1) previous s (.element r) s
  /-- The element of a pass is bound before its text is found. -/
  | text {loop : LoopHeader} {ns : List Node} {r : Ref} {fuel : Nat}
      {previous : Option (List String)} {s : Session} {v : Value} {m : Machine} :
    next r s.machine = .ok (some v) m →
    loop.name.getD "" ≠ "" →
    ReachesPasses loop ns r (fuel + 1) previous s (.textOf v)
      { s with scope := s.scope.enter.bind (loop.name.getD "") v, machine := m }
  | body {loop : LoopHeader} {ns : List Node} {r : Ref} {fuel : Nat}
      {previous : Option (List String)} {s t s' : Session} {k : Task} {v : Value} {m : Machine} :
    next r s.machine = .ok (some v) m →
    enterPass loop.name v { s with machine := m } = .ok () t →
    ReachesAll ns (if loop.collapse then apart t else t) k s' →
    ReachesPasses loop ns r (fuel + 1) previous s k s'
  | later {loop : LoopHeader} {ns : List Node} {r : Ref} {fuel : Nat}
      {previous lines : Option (List String)} {s t s' : Session} {k : Task} {v : Value} {m : Machine} :
    next r s.machine = .ok (some v) m →
    pass loop (Node.renderAll e limit ns) previous v { s with machine := m } = .ok lines t →
    ReachesPasses loop ns r fuel lines t k s' →
    ReachesPasses loop ns r (fuel + 1) previous s k s'

end

end Reaching

/-! ## A failure that is met -/

/-- How rendering ends that has come to a task: with the failure of the task where that is not caught,
and otherwise with the error recorded. -/
def Met {α : Type} (e : Evaluator) (k : Task) (s' : Session) (r : EStateM.Result Halt Session α) :
    Prop :=
  ∀ f, k.FailsWith e s' f →
    match k.record f with
    | none => ∃ t, r = .error (.failed f) t
    | some message => s'.scope.errors ++ [message] <+: (ended r).scope.errors

namespace Met

variable {α β : Type} {e : Evaluator} {k : Task} {s s' t : Session}

/-- What comes after an action that has met a failure changes nothing about that. -/
theorem left {a : Render α} {c : α → Render β} (h : Met e k s' (a s)) (hc : ∀ x, Grows (c x)) :
    Met e k s' ((a >>= c) s) := by
  intro f hf
  have hmet := h f hf
  split at hmet
  · obtain ⟨t, ht⟩ := hmet
    exact ⟨t, bind_of_error ht⟩
  · refine hmet.trans ?_
    cases hrun : a s with
    | ok x t =>
      rw [bind_of_ok hrun]
      exact hc x t
    | error q t =>
      rw [bind_of_error hrun]
      exact List.prefix_refl _

theorem right {a : Render α} {c : α → Render β} {x : α} (ha : a s = .ok x t)
    (h : Met e k s' (c x t)) : Met e k s' ((a >>= c) s) := by
  rwa [bind_of_ok ha]

theorem leaving {body : Render α} (h : Met e k s' (body s)) :
    Met e k s' (ensuring body Scope.leave s) := by
  intro f hf
  have hmet := h f hf
  split at hmet
  · obtain ⟨t, ht⟩ := hmet
    exact ⟨_, ensuring_of_error ht⟩
  · cases hrun : body s with
    | ok x t =>
      rw [hrun, ended_ok, ← Scope.errors_leave t.scope] at hmet
      rw [ensuring_of_ok hrun]
      exact hmet
    | error q t =>
      rw [hrun, ended_error, ← Scope.errors_leave t.scope] at hmet
      rw [ensuring_of_error hrun]
      exact hmet

theorem collecting {body : Render Unit} (h : Met e k s' (body (apart s))) :
    Met e k s' (collecting body s) := by
  intro f hf
  have hmet := h f hf
  split at hmet
  · obtain ⟨t, ht⟩ := hmet
    exact ⟨_, collecting_of_error ht⟩
  · cases hrun : body (apart s) with
    | ok x t =>
      rw [hrun] at hmet
      rw [collecting_of_ok hrun]
      exact hmet
    | error q t =>
      rw [hrun] at hmet
      rw [collecting_of_error hrun]
      exact hmet

/-- Where the failures of a task leave an action, they are met by it. -/
theorem of_failed {a : Render α} (hk : ∀ f, k.record f = none)
    (h : ∀ f, k.FailsWith e s' f → ∃ t, a s = .error (.failed f) t) : Met e k s' (a s) := by
  intro f hf
  rw [hk f]
  exact h f hf

/-- Where a task is done as the pass is entered, the pass meets its failures. -/
theorem entered {body : Render α} {name : Option String} {v : Value}
    (h : Met e k s' (enterPass name v s)) (hbody : Grows body) :
    Met e k s' (nested name v body s) :=
  h.left fun _ => Grows.leaving hbody

theorem pass {body : Render Unit} {loop : LoopHeader} {v : Value} (previous : Option (List String))
    (hplain : loop.collapse = false → Met e k s' (nested loop.name v body s))
    (hcollapse : loop.collapse = true → Met e k s' (nested loop.name v (Render.collecting body) s)) :
    Met e k s' (pass loop body previous v s) := by
  rw [Render.pass]
  cases hc : loop.collapse with
  | false => exact (hplain hc).left fun _ => Grows.of_eq fun _ => rfl
  | true =>
    refine (hcollapse hc).left fun lines => ?_
    split
    · exact Grows.of_eq fun _ => rfl
    · exact ((Grows.compositional e).emitAll lines).bind fun _ => Grows.of_eq fun _ => rfl

end Met

/-- The actions before an action are done when it is come to. -/
theorem perform_append {description : String} {before : List Action} {s : Session} {scope : Scope}
    (h : before.foldlM (fun t b => b.apply t) s.scope = .ok scope) (as : List Action) :
    perform description (before ++ as) s = perform description as { s with scope := scope } := by
  induction before generalizing s with
  | nil =>
    obtain rfl := Except.ok.inj h
    rfl
  | cons b before ih =>
    cases hb : b.apply s.scope with
    | error f =>
      rw [List.foldlM_cons, hb] at h
      cases h
    | ok t =>
      rw [List.foldlM_cons, hb] at h
      rw [List.cons_append, perform_cons_of_ok hb]
      exact ih (s := { s with scope := t }) h

section Meeting

variable {e : Evaluator} {limit : Nat}

/-- A task that the passes of a block come to is met by them, when those of the body are. -/
theorem ReachesPasses.met {loop : LoopHeader} {ns : List Node} {r : Ref} {fuel : Nat}
    (hns : ∀ {s s' : Session} {k : Task}, ReachesAll e limit ns s k s' →
      Met e k s' (Node.renderAll e limit ns s)) :
    ∀ {previous : Option (List String)} {s s' : Session} {k : Task},
      ReachesPasses e limit loop ns r fuel previous s k s' →
      Met e k s' (passes loop r (Node.renderAll e limit ns) fuel previous s) := by
  have hbody := (Grows.compositional e).renderAll limit ns
  have hrest := (Grows.compositional e).passes hbody loop r
  induction fuel with
  | zero =>
    intro previous s s' k h
    cases h
  | succ fuel ih =>
    intro previous s s' k h
    cases h with
    | element =>
      refine Met.of_failed (fun _ => rfl) ?_
      rintro f ⟨m, hf⟩
      exact ⟨_, bind_of_error (act_of_error hf)⟩
    | @text _ _ _ _ _ _ v m hv hname =>
      -- The element is bound, and its text is what the placeholder would stand for.
      have henter : Met e (.textOf v)
          { s with scope := s.scope.enter.bind (loop.name.getD "") v, machine := m }
          (enterPass loop.name v { s with machine := m }) := by
        refine Met.of_failed (fun _ => rfl) ?_
        rintro f ⟨m, hf⟩
        exact ⟨_, enterPass_of_error hname hf⟩
      rw [passes_of_some hv]
      exact (Met.pass previous (fun _ => henter.entered hbody)
        fun _ => henter.entered hbody.collecting).left (hrest fuel)
    | body hv henter h =>
      rw [passes_of_some hv]
      refine (Met.pass previous (fun hc => ?_) fun hc => ?_).left (hrest fuel)
      · rw [hc] at h
        exact Met.right henter (hns h).leaving
      · rw [hc] at h
        exact Met.right henter (hns h).collecting.leaving
    | later hv hpass h =>
      -- The passes go on with their fuel and with the lines of this one.
      rw [passes_of_some hv]
      exact Met.right hpass (ih h)

mutual

/-- A task that a run comes to is met by the run. -/
theorem Reaches.met {n : Node} {s s' : Session} {k : Task} (h : Reaches e limit n s k s') :
    Met e k s' (n.render e limit s) := by
  cases n with
  | list _ ns =>
    cases h with
    | list h => exact ReachesAll.met h
  | line text =>
    cases h with
    | line =>
      have hline : Met e (.line text) s (filterLine e text s) := by
        rintro f ⟨m, hf⟩
        rw [filterLine_of_error hf]
        exact List.prefix_refl _
      exact hline.left Grows.emit
  | eval text =>
    cases h with
    | eval =>
      rintro f ⟨m, hf⟩
      rw [Node.render, executeNode_of_error hf]
      exact List.prefix_refl _
  | insert text indent =>
    cases h with
    | insert =>
      rintro f ⟨m, hf⟩
      rw [Node.render, insertNode_of_error indent hf]
      exact List.prefix_refl _
    | inserted hv =>
      refine Met.of_failed (fun _ => rfl) ?_
      rintro f ⟨m, hf⟩
      rw [Node.render, insertNode_of_ok indent hv, bind_of_error (act_of_error hf)]
      exact ⟨_, rfl⟩
  | operation description actions =>
    cases h with
    | operation hbefore =>
      -- The actions behind the one that fails are left out.
      intro f hf
      rw [Node.render, Option.getD_some, perform_append hbefore, perform_cons_of_error hf]
      exact List.prefix_refl _
  | error message => cases h
  | block loop ns =>
    have hns : ∀ {s s' : Session} {k : Task}, ReachesAll e limit ns s k s' →
        Met e k s' (Node.renderAll e limit ns s) := ReachesAll.met
    cases h with
    | header htext =>
      rintro f ⟨m, hf⟩
      rw [Node.render, blockNode_of_error htext hf]
      exact List.prefix_refl _
    | once htext h =>
      rw [Node.render, blockNode_of_once htext]
      exact Met.right (enterPass_of_unnamed rfl _ s) (hns h).leaving
    | loop htext hv hr h =>
      rw [Node.render, blockNode_of_ok htext hv]
      exact Met.right (act_of_ok hr) (ReachesPasses.met hns h)

theorem ReachesAll.met {ns : List Node} {s s' : Session} {k : Task}
    (h : ReachesAll e limit ns s k s') : Met e k s' (Node.renderAll e limit ns s) := by
  cases ns with
  | nil => cases h
  | cons n ns =>
    cases h with
    | head h => exact (Reaches.met h).left fun _ => (Grows.compositional e).renderAll limit ns
    | tail hn h => exact Met.right hn (ReachesAll.met h)

end

end Meeting

/-! ## A failure that leaves the tree -/

/-- Rendering that no failure leaves. -/
def Contains {α : Type} (a : Render α) : Prop := ∀ s f t, a s ≠ .error (.failed f) t

namespace Contains

variable {α β : Type}

theorem pure (x : α) : Contains (pure x) := by
  intro s f t h
  cases h

theorem bind {a : Render α} {c : α → Render β} (ha : Contains a) (hc : ∀ x, Contains (c x)) :
    Contains (a >>= c) := by
  intro s f t h
  rcases bind_eq_error_iff.mp h with h | ⟨x, u, _, h⟩
  · exact ha s f t h
  · exact hc x u f t h

theorem emit (text : String) : Contains (emit text) := by
  intro s f t h
  rw [emit_apply] at h
  split at h <;> cases h

theorem emitAll (texts : List String) : Contains (emitAll texts) := by
  induction texts with
  | nil => exact pure ()
  | cons text texts ih => exact (emit text).bind fun _ => ih

theorem filterLine (e : Evaluator) (text : String) : Contains (filterLine e text) := by
  intro s f t h
  cases hline : s.scope.filterOrFail e text s.machine with
  | ok o m => cases (filterLine_of_ok hline).symm.trans h
  | error g m => cases (filterLine_of_error hline).symm.trans h

theorem executeNode (e : Evaluator) (text : String) : Contains (executeNode e text) := by
  intro s f t h
  cases hrun : e.execute s.scope.bindings text s.machine with
  | ok r m => cases (executeNode_of_ok hrun).symm.trans h
  | error g m => cases (executeNode_of_error hrun).symm.trans h

theorem perform (description : String) (actions : List Action) :
    Contains (perform description actions) := by
  induction actions with
  | nil => exact pure ()
  | cons a actions ih =>
    intro s f t h
    cases ha : a.apply s.scope with
    | ok scope => exact ih _ f t ((perform_cons_of_ok ha).symm.trans h)
    | error g => cases (perform_cons_of_error ha).symm.trans h

end Contains

section Leaving

variable {s t : Session} {f : Failure} {loop : LoopHeader} {v : Value}

/-- Only the text of the element can fail as a pass is entered. -/
theorem enterPass_failed {name : Option String}
    (h : enterPass name v s = .error (.failed f) t) :
    name.getD "" ≠ "" ∧ ∃ m, asText v s.machine = .error f m := by
  by_cases hname : name.getD "" = ""
  · cases (enterPass_of_unnamed hname v s).symm.trans h
  · cases hv : asText v s.machine with
    | ok shown m => cases (enterPass_of_ok hname hv).symm.trans h
    | error g m =>
      cases (enterPass_of_error hname hv).symm.trans h
      exact ⟨hname, m, rfl⟩

theorem nested_failed {α : Type} {name : Option String} {body : Render α}
    (h : nested name v body s = .error (.failed f) t) :
    enterPass name v s = .error (.failed f) t ∨
      ∃ u t', enterPass name v s = .ok () u ∧ body u = .error (.failed f) t' := by
  rcases bind_eq_error_iff.mp h with h | ⟨_, u, henter, h⟩
  · exact .inl h
  · refine .inr ⟨u, ?_⟩
    cases hbody : body u with
    | ok x t' => cases (ensuring_of_ok hbody).symm.trans h
    | error q t' =>
      cases (ensuring_of_error hbody).symm.trans h
      exact ⟨t', henter, rfl⟩

/-- A pass fails as it is entered, or its body does. -/
theorem pass_failed {body : Render Unit} {previous : Option (List String)}
    (h : pass loop body previous v s = .error (.failed f) t) :
    (∃ t', enterPass loop.name v s = .error (.failed f) t') ∨
      ∃ u t', enterPass loop.name v s = .ok () u ∧
        body (if loop.collapse then apart u else u) = .error (.failed f) t' := by
  rw [Render.pass] at h
  cases hc : loop.collapse with
  | false =>
    rw [hc] at h
    rcases bind_eq_error_iff.mp h with h | ⟨_, _, _, h⟩
    · rcases nested_failed h with h | h
      · exact .inl ⟨t, h⟩
      · exact .inr h
    · cases h
  | true =>
    rw [hc] at h
    rcases bind_eq_error_iff.mp h with h | ⟨lines, u, _, h⟩
    · rcases nested_failed h with h | ⟨u, t', henter, h⟩
      · exact .inl ⟨t, h⟩
      · refine .inr ⟨u, ?_⟩
        cases hbody : body (apart u) with
        | ok x t'' => cases (collecting_of_ok hbody).symm.trans h
        | error q t'' =>
          cases (collecting_of_error hbody).symm.trans h
          exact ⟨t'', henter, hbody⟩
    · split at h
      · cases h
      · exact absurd h (((Contains.emitAll lines).bind fun _ => .pure _) u f t)

end Leaving

/-- A run comes to a task whose failure `f` it does not catch. -/
def Escapes (f : Failure) (reaches : Task → Session → Prop) (e : Evaluator) : Prop :=
  ∃ k s', reaches k s' ∧ k.FailsWith e s' f ∧ k.record f = none

section Escaping

variable {e : Evaluator} {limit : Nat}

theorem ReachesPasses.of_failed {loop : LoopHeader} {ns : List Node} {r : Ref} {fuel : Nat}
    (hns : ∀ {s t : Session} {f : Failure}, Node.renderAll e limit ns s = .error (.failed f) t →
      Escapes f (ReachesAll e limit ns s) e) :
    ∀ {previous : Option (List String)} {s t : Session} {f : Failure},
      passes loop r (Node.renderAll e limit ns) fuel previous s = .error (.failed f) t →
      Escapes f (ReachesPasses e limit loop ns r fuel previous s) e := by
  induction fuel with
  | zero =>
    intro previous s t f h
    cases h
  | succ fuel ih =>
    intro previous s t f h
    cases hv : next r s.machine with
    | error g m =>
      cases (bind_of_error (act_of_error hv)).symm.trans h
      exact ⟨.element r, s, .element, ⟨m, hv⟩, rfl⟩
    | ok found m =>
      cases found with
      | none => cases (passes_of_none hv).symm.trans h
      | some v =>
        rw [passes_of_some hv] at h
        rcases bind_eq_error_iff.mp h with h | ⟨lines, u, hpass, h⟩
        · rcases pass_failed h with ⟨t', h⟩ | ⟨u, t', henter, h⟩
          · obtain ⟨hname, m', hf⟩ := enterPass_failed h
            exact ⟨.textOf v, _, .text hv hname, ⟨m', hf⟩, rfl⟩
          · obtain ⟨k, s', hreach, hk⟩ := hns h
            exact ⟨k, s', .body hv henter hreach, hk⟩
        · obtain ⟨k, s', hreach, hk⟩ := ih h
          exact ⟨k, s', .later hv hpass hreach, hk⟩

mutual

/-- A run that fails has come to a task whose failure it does not catch. -/
theorem Reaches.of_failed {n : Node} {s t : Session} {f : Failure}
    (h : n.render e limit s = .error (.failed f) t) : Escapes f (Reaches e limit n s) e := by
  cases n with
  | list _ ns =>
    obtain ⟨k, s', hreach, hk⟩ := ReachesAll.of_failed h
    exact ⟨k, s', .list hreach, hk⟩
  | line text => exact absurd h (((Contains.filterLine e text).bind Contains.emit) s f t)
  | eval text => exact absurd h (Contains.executeNode e text s f t)
  | operation description actions => exact absurd h (Contains.perform description _ s f t)
  | error message => cases h
  | insert text indent =>
    rw [Node.render] at h
    cases hv : s.scope.evaluate e text s.machine with
    | error g m => cases (insertNode_of_error indent hv).symm.trans h
    | ok v m =>
      rw [insertNode_of_ok indent hv] at h
      cases hshown : asText v m with
      | error g m' =>
        cases (bind_of_error (act_of_error hshown)).symm.trans h
        exact ⟨.textOf v, _, .inserted hv, ⟨m', hshown⟩, rfl⟩
      | ok shown m' =>
        rw [bind_of_ok (act_of_ok hshown)] at h
        exact absurd h (Contains.emitAll _ _ f t)
  | block loop ns =>
    have hns : ∀ {s t : Session} {f : Failure},
        Node.renderAll e limit ns s = .error (.failed f) t →
        Escapes f (ReachesAll e limit ns s) e := ReachesAll.of_failed
    rw [Node.render] at h
    cases htext : loop.expression with
    | none =>
      rw [blockNode_of_once htext] at h
      rcases nested_failed h with h | ⟨u, t', henter, h⟩
      -- A body without a loop has no element to find a text for.
      · exact absurd rfl (enterPass_failed h).1
      · cases (enterPass_of_unnamed rfl _ s).symm.trans henter
        obtain ⟨k, s', hreach, hk⟩ := hns h
        exact ⟨k, s', .once htext hreach, hk⟩
    | some text =>
      cases hv : s.scope.evaluate e text s.machine with
      | error g m => cases (blockNode_of_error htext hv).symm.trans h
      | ok v m =>
        obtain ⟨r, m', hr⟩ := Safe.elementsOf v m
        rw [blockNode_of_ok htext hv, bind_of_ok (act_of_ok hr)] at h
        obtain ⟨k, s', hreach, hk⟩ := ReachesPasses.of_failed hns h
        exact ⟨k, s', .loop htext hv hr hreach, hk⟩

theorem ReachesAll.of_failed {ns : List Node} {s t : Session} {f : Failure}
    (h : Node.renderAll e limit ns s = .error (.failed f) t) :
    Escapes f (ReachesAll e limit ns s) e := by
  cases ns with
  | nil => cases h
  | cons n ns =>
    rcases bind_eq_error_iff.mp h with h | ⟨_, u, hn, h⟩
    · obtain ⟨k, s', hreach, hk⟩ := Reaches.of_failed h
      exact ⟨k, s', .head hreach, hk⟩
    · obtain ⟨k, s', hreach, hk⟩ := ReachesAll.of_failed h
      exact ⟨k, s', .tail hn hreach, hk⟩

end

end Escaping

/-! ## Which failures end rendering -/

/-- **Rendering contains all failures but two kinds.** A run of any tree ends by a failure exactly
where it comes to a task whose failures are not caught, which are finding the text of a value and
asking for the next element, and the task fails in this way. Any other failure that the run comes to
is among the recorded errors when the run ends, behind those recorded before it. -/
theorem Node.render_failures (n : Node) (e : Evaluator) (limit : Nat) (s : Session) :
    (∀ f, (∃ t, n.render e limit s = .error (.failed f) t) ↔
      ∃ k s', Reaches e limit n s k s' ∧ k.FailsWith e s' f ∧ k.record f = none) ∧
    ∀ k s' f message, Reaches e limit n s k s' → k.FailsWith e s' f → k.record f = some message →
      s'.scope.errors ++ [message] <+: (ended (n.render e limit s)).scope.errors := by
  refine ⟨fun f => ⟨?_, ?_⟩, ?_⟩
  · rintro ⟨t, h⟩
    exact Reaches.of_failed h
  · rintro ⟨k, s', hreach, hfails, hrecord⟩
    have hmet := hreach.met f hfails
    rwa [hrecord] at hmet
  · intro k s' f message hreach hfails hrecord
    have hmet := hreach.met f hfails
    rwa [hrecord] at hmet

end Stencil
