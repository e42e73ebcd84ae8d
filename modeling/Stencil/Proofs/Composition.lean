import Stencil.Proofs.Effects
/-!
# Stencil.Proofs.Composition -- induction on rendering

Rendering a tree is put together from a few steps: sequences, levels, bodies whose lines are
collected, and the work of the leaves. A property of rendering that these steps have and keep is a
property of rendering every tree. The induction over trees, and over the passes of a block in it, is
made here once; each property that is proved with it only looks at one step at a time.
-/

namespace Stencil

open Stencil.Expr Render

/-- Steps that hand out nothing have the property `P`: those that look at the scope or change it, act
on the machine, or report something, and sequences of these. -/
structure Stepwise (P : ∀ {α : Type}, Render α → Prop) : Prop where
  pure : ∀ {α : Type} (x : α), P (pure x : Render α)
  bind : ∀ {α β : Type} {a : Render α} {k : α → Render β}, P a → (∀ x, P (k x)) → P (a >>= k)
  act : ∀ {α : Type} (a : Act α), P (act a)
  attempt : ∀ {α : Type} (a : Act α), P (attempt a)
  currentScope : P currentScope
  modifyScope : ∀ f : Scope → Scope, P (modifyScope f)
  report : ∀ (r : Reporter) (l : Level) (message : String), P (report r l message)

namespace Stepwise

variable {P : ∀ {α : Type}, Render α → Prop} (h : Stepwise P)
include h

theorem recordError (message : String) : P (recordError message) :=
  h.bind (h.report _ _ _) fun _ => h.modifyScope _

theorem filterLine (e : Evaluator) (text : String) : P (filterLine e text) := by
  refine h.bind h.currentScope fun before => h.bind (h.act _) fun found => ?_
  have hrest : P (Render.modifyScope (fun _ => found.2) >>= fun _ =>
    (Pure.pure found.1.text : Render String)) := h.bind (h.modifyScope _) fun _ => h.pure _
  show P (if _ then _ else _)
  split
  · exact h.bind (h.report _ _ _) fun _ => hrest
  · exact hrest

theorem executeNode (e : Evaluator) (text : String) : P (executeNode e text) := by
  refine h.bind h.currentScope fun scope => h.bind (h.attempt _) fun found => ?_
  cases found with
  | ok r => exact h.modifyScope _
  | error f => exact h.recordError _

theorem perform (description : String) (actions : List Action) :
    P (perform description actions) := by
  induction actions with
  | nil => exact h.pure ()
  | cons a actions ih =>
    refine h.bind h.currentScope fun scope => ?_
    split
    · exact h.bind (h.modifyScope _) fun _ => ih
    · exact h.recordError _

theorem enterPass (name : Option String) (v : Value) : P (enterPass name v) := by
  refine h.bind (h.modifyScope _) fun _ => ?_
  show P (if _ then _ else _)
  split
  · exact h.bind (h.modifyScope _) fun _ => h.bind h.currentScope fun _ =>
      h.bind (h.act _) fun _ => h.modifyScope _
  · exact h.pure ()

end Stepwise

/-- Find the value of an expression in the scope as it is, or why it has none. -/
def Render.evaluation (e : Evaluator) (text : String) : Render (Except Failure Value) := do
  attempt ((← currentScope).evaluate e text)

theorem Render.insertNode_eq (e : Evaluator) (text indent : String) :
    insertNode e text indent = evaluation e text >>= fun
      | .error f => recordError (">" ++ text ++ ": " ++ f.describe)
      | .ok v => act (asText v) >>= fun shown =>
          emitAll ((Text.textLines shown.toList).map fun l => indent ++ String.ofList l) := by
  rw [evaluation, bind_assoc]
  rfl

theorem Render.blockNode_eq (e : Evaluator) (limit : Nat) (loop : LoopHeader) (body : Render Unit) :
    blockNode e limit loop body =
      match loop.expression with
      | none => nested none .none body
      | some text => evaluation e text >>= fun
        | .error f => recordError (loop.shown ++ ": " ++ f.describe)
        | .ok v => act (elementsOf v) >>= fun r => passes loop r body limit none := by
  cases hexpression : loop.expression with
  | none => rw [blockNode, hexpression]
  | some text =>
    rw [blockNode, hexpression]
    exact (bind_assoc currentScope (fun scope => attempt (scope.evaluate e text)) _).symm

/-- The steps of a block have the property `P`, when its body has the property `Q`. The two differ
where a level takes back what its body does. Blocks and insertions look at the scope only to evaluate
expressions in it. -/
structure BlockSteps (e : Evaluator) (Q P : ∀ {α : Type}, Render α → Prop) : Prop where
  pure : ∀ {α : Type} (x : α), P (pure x : Render α)
  bind : ∀ {α β : Type} {a : Render α} {k : α → Render β}, P a → (∀ x, P (k x)) → P (a >>= k)
  endless : P (throw .endless : Render Unit)
  act : ∀ {α : Type} (a : Act α), P (act a)
  evaluation : ∀ text : String, P (evaluation e text)
  report : ∀ (r : Reporter) (l : Level) (message : String), P (report r l message)
  recordError : ∀ message : String, P (recordError message)
  emit : ∀ text : String, P (emit text)
  nested : ∀ {α : Type} {body : Render α} (name : Option String) (v : Value),
    Q body → P (nested name v body)
  collecting : ∀ {body : Render Unit}, Q body → Q (collecting body)

namespace BlockSteps

variable {e : Evaluator} {Q P : ∀ {α : Type}, Render α → Prop} (h : BlockSteps e Q P)
include h

theorem emitAll (texts : List String) : P (emitAll texts) := by
  induction texts with
  | nil => exact h.pure ()
  | cons t texts ih => exact h.bind (h.emit t) fun _ => ih

theorem insertNode (text indent : String) : P (insertNode e text indent) := by
  rw [insertNode_eq]
  refine h.bind (h.evaluation text) fun found => ?_
  cases found with
  | error f => exact h.recordError _
  | ok v => exact h.bind (h.act _) fun _ => h.emitAll _

theorem pass {body : Render Unit} (hbody : Q body) (loop : LoopHeader)
    (previous : Option (List String)) (v : Value) : P (pass loop body previous v) := by
  rw [Render.pass]
  split
  · refine h.bind (h.nested _ _ (h.collecting hbody)) fun lines => ?_
    split
    · exact h.bind (h.report _ _ _) fun _ => h.pure _
    · exact h.bind (h.emitAll _) fun _ => h.pure _
  · exact h.bind (h.nested _ _ hbody) fun _ => h.pure _

theorem passes {body : Render Unit} (hbody : Q body) (loop : LoopHeader) (r : Ref) (fuel : Nat) :
    ∀ previous : Option (List String), P (passes loop r body fuel previous) := by
  induction fuel with
  | zero => exact fun _ => h.endless
  | succ fuel ih =>
    intro previous
    refine h.bind (h.act _) fun found => ?_
    cases found with
    | none => exact h.pure ()
    | some v => exact h.bind (h.pass hbody loop previous v) ih

theorem blockNode {body : Render Unit} (hbody : Q body) (limit : Nat) (loop : LoopHeader) :
    P (blockNode e limit loop body) := by
  rw [blockNode_eq]
  split
  · exact h.nested _ _ hbody
  · refine h.bind (h.evaluation _) fun found => ?_
    cases found with
    | error f => exact h.recordError _
    | ok v => exact h.bind (h.act _) fun r => h.passes hbody loop r limit none

end BlockSteps

/-- The steps of a block have the property `P`, when its body has the property `Q`, and so does every
look at the scope. -/
structure Enclosing (Q P : ∀ {α : Type}, Render α → Prop) : Prop where
  pure : ∀ {α : Type} (x : α), P (pure x : Render α)
  bind : ∀ {α β : Type} {a : Render α} {k : α → Render β}, P a → (∀ x, P (k x)) → P (a >>= k)
  endless : P (throw .endless : Render Unit)
  act : ∀ {α : Type} (a : Act α), P (act a)
  attempt : ∀ {α : Type} (a : Act α), P (attempt a)
  currentScope : P currentScope
  report : ∀ (r : Reporter) (l : Level) (message : String), P (report r l message)
  recordError : ∀ message : String, P (recordError message)
  emit : ∀ text : String, P (emit text)
  nested : ∀ {α : Type} {body : Render α} (name : Option String) (v : Value),
    Q body → P (nested name v body)
  collecting : ∀ {body : Render Unit}, Q body → Q (collecting body)

namespace Enclosing

variable {Q P : ∀ {α : Type}, Render α → Prop} (h : Enclosing Q P)
include h

theorem blockSteps (e : Evaluator) : BlockSteps e Q P where
  pure := h.pure
  bind := h.bind
  endless := h.endless
  act := h.act
  evaluation _ := h.bind h.currentScope fun _ => h.attempt _
  report := h.report
  recordError := h.recordError
  emit := h.emit
  nested := h.nested
  collecting := h.collecting

theorem emitAll (texts : List String) : P (emitAll texts) := (h.blockSteps .standard).emitAll texts

theorem insertNode (e : Evaluator) (text indent : String) : P (insertNode e text indent) :=
  (h.blockSteps e).insertNode text indent

theorem pass {body : Render Unit} (hbody : Q body) (loop : LoopHeader)
    (previous : Option (List String)) (v : Value) : P (pass loop body previous v) :=
  (h.blockSteps .standard).pass hbody loop previous v

theorem passes {body : Render Unit} (hbody : Q body) (loop : LoopHeader) (r : Ref) (fuel : Nat) :
    ∀ previous : Option (List String), P (passes loop r body fuel previous) :=
  (h.blockSteps .standard).passes hbody loop r fuel

theorem blockNode {body : Render Unit} (hbody : Q body) (e : Evaluator) (limit : Nat)
    (loop : LoopHeader) : P (blockNode e limit loop body) :=
  (h.blockSteps e).blockNode hbody limit loop

end Enclosing

/-- The steps of rendering a tree have the property `P`, or keep it. -/
structure TreeSteps (e : Evaluator) (P : ∀ {α : Type}, Render α → Prop) : Prop
    extends BlockSteps e P P where
  filterLine : ∀ text : String, P (filterLine e text)
  executeNode : ∀ text : String, P (executeNode e text)
  perform : ∀ (description : String) (actions : List Action), P (perform description actions)

namespace TreeSteps

variable {e : Evaluator} {P : ∀ {α : Type}, Render α → Prop} (h : TreeSteps e P)
include h

mutual

/-- **Induction on rendering.** -/
theorem render (limit : Nat) (n : Node) : P (n.render e limit) := by
  cases n with
  | list _ ns => exact renderAll limit ns
  | line text => exact h.bind (h.filterLine text) h.emit
  | block loop ns => exact h.blockNode (renderAll limit ns) limit loop
  | eval text => exact h.executeNode text
  | insert text indent => exact h.insertNode text indent
  | operation description actions => exact h.perform description _
  | error message => exact h.recordError message

theorem renderAll (limit : Nat) (ns : List Node) : P (Node.renderAll e limit ns) := by
  cases ns with
  | nil => exact h.pure ()
  | cons n ns => exact h.bind (render limit n) fun _ => renderAll limit ns

end

end TreeSteps

/-- The steps of rendering a tree have the property `P`, or keep it, and so does every look at the
scope. -/
structure Compositional (e : Evaluator) (P : ∀ {α : Type}, Render α → Prop) : Prop
    extends Enclosing P P where
  filterLine : ∀ text : String, P (filterLine e text)
  executeNode : ∀ text : String, P (executeNode e text)
  perform : ∀ (description : String) (actions : List Action), P (perform description actions)

namespace Compositional

variable {e : Evaluator} {P : ∀ {α : Type}, Render α → Prop} (h : Compositional e P)
include h

theorem treeSteps : TreeSteps e P where
  toBlockSteps := h.blockSteps e
  filterLine := h.filterLine
  executeNode := h.executeNode
  perform := h.perform

theorem render (limit : Nat) (n : Node) : P (n.render e limit) := h.treeSteps.render limit n

theorem renderAll (limit : Nat) (ns : List Node) : P (Node.renderAll e limit ns) :=
  h.treeSteps.renderAll limit ns

end Compositional

end Stencil
