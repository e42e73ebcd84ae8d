import Stencil.Log
import Stencil.Tree
import Stencil.Expr.Arith
/-!
# Stencil.Render -- rendering trees

A tree is rendered from left to right, and its lines are handed out one at a time: where the reader
of the lines takes no more of them, rendering is closed, and nothing behind the last line taken has
happened. Closing, like failing, leaves every open level on the way out. Most failures are recorded
in the scope, and rendering goes on with the next node; others end it.
-/

namespace Stencil

open Stencil.Expr

/-! ## Rendering as an action -/

/-- A line handed out, and how many errors had been recorded by then. -/
structure Line where
  text : String
  mark : Nat
  deriving DecidableEq, Repr, Inhabited

/-- Why rendering ended early. -/
inductive Halt where
  /-- All lines that were wanted have been handed out. -/
  | closed
  | failed (f : Failure)
  /-- The limit of passes of one block has been reached. -/
  | endless
  deriving DecidableEq, Repr

/-- The state of rendering: the scope, the machine, the lines handed out, how many more are wanted
(none: all of them), and the reports, the latest first. -/
structure Session where
  scope : Scope
  machine : Machine := {}
  lines : Array Line := #[]
  wanted : Option Nat := none
  reports : List Report := []
  deriving Inhabited

/-- Rendering. -/
abbrev Render (α : Type) := EStateM Halt Session α

namespace Render

/-- Act on the machine. -/
def act {α : Type} (a : Act α) : Render α := fun s =>
  match a s.machine with
  | .ok v m => .ok v { s with machine := m }
  | .error f m => .error (.failed f) { s with machine := m }

/-- Act on the machine, and tell a failure as a result. -/
def attempt {α : Type} (a : Act α) : Render (Except Failure α) := fun s =>
  match a s.machine with
  | .ok v m => .ok (.ok v) { s with machine := m }
  | .error f m => .ok (.error f) { s with machine := m }

/-- Report something. -/
def report (reporter : Reporter) (level : Level) (message : String) : Render Unit :=
  modify fun s => { s with reports := ⟨reporter, level, message⟩ :: s.reports }

/-- The scope as it is. -/
def currentScope : Render Scope := return (← get).scope

/-- Change the scope. -/
def modifyScope (f : Scope → Scope) : Render Unit := modify fun s => { s with scope := f s.scope }

/-- Record an error. -/
def recordError (message : String) : Render Unit := do
  report .scope .debug ("Template error: " ++ message)
  modifyScope (·.error message)

/-- Hand out a line. -/
def emit (text : String) : Render Unit := do
  let s ← get
  let wanted := s.wanted.map (· - 1)
  -- The line counts as handed out before rendering is closed at it.
  set { s with lines := s.lines.push ⟨text, s.scope.errors.length⟩, wanted }
  if wanted == some 0 then throw .closed

/-- Hand out lines. -/
def emitAll (texts : List String) : Render Unit := texts.forM emit

/-- Do something in the end, however rendering ends. -/
def ensuring {α : Type} (body : Render α) (f : Scope → Scope) : Render α := fun s =>
  match body s with
  | .ok v s' => .ok v { s' with scope := f s'.scope }
  | .error h s' => .error h { s' with scope := f s'.scope }

/-- The lines of a body that is rendered to its end before any of them is handed out. -/
def collecting (body : Render Unit) : Render (List String) := fun s =>
  match body { s with lines := #[], wanted := none } with
  | .ok _ s' => .ok (s'.lines.toList.map (·.text)) { s' with lines := s.lines, wanted := s.wanted }
  | .error h s' => .error h { s' with lines := s.lines, wanted := s.wanted }

/-! ## Nodes -/

/-- Send a line through the rules. -/
def filterLine (e : Evaluator) (text : String) : Render String := do
  let before ← currentScope
  let (outcome, after) ← act (before.filter e text)
  if after.errors.length != before.errors.length then
    report .scope .debug ("Template error: " ++ after.errors.getLastD "")
  modifyScope fun _ => after
  return outcome.text

/-- Do what actions say. The first failure is recorded, and the actions after it are left out. -/
def perform (description : String) : List Action → Render Unit
  | [] => return
  | a :: as => do
    match a.apply (← currentScope) with
    | .ok scope =>
      modifyScope fun _ => scope
      perform description as
    | .error f => recordError (description ++ ": " ++ f.describe)

/-- Execute a statement. -/
def executeNode (e : Evaluator) (text : String) : Render Unit := do
  let scope ← currentScope
  match ← attempt (scope.execute e text) with
  | .ok (_, scope) => modifyScope fun _ => scope
  | .error f => recordError ("!" ++ text ++ ": " ++ f.describe)

/-- Hand out the value of an expression as lines. A value that has no text ends rendering. -/
def insertNode (e : Evaluator) (text indent : String) : Render Unit := do
  let scope ← currentScope
  match ← attempt (scope.evaluate e text) with
  | .error f => recordError (">" ++ text ++ ": " ++ f.describe)
  | .ok v =>
    let shown ← act (asText v)
    emitAll ((Text.textLines shown.toList).map fun l => indent ++ String.ofList l)

/-! ## Blocks -/

/-- The elements of a value, as an iterator: nothing for an empty value, the value itself when it is
a text, bytes, or no collection. -/
def elementsOf (v : Value) : Act Ref := do
  let single : Act Ref := do
    let it := Iter.fixed (if ← truthy v then [v] else [])
    alloc (.iterator it)
  match v with
  | .none => alloc (.iterator .finished)
  | .str _ | .bytes _ => single
  | _ =>
    match ← iter? v with
    | some (.iterator _ r) => return r
    | _ => single

/-- Open a level for an element. When the element has no text, the level stays open. -/
def enterPass (name : Option String) (v : Value) : Render Unit := do
  modifyScope Scope.enter
  -- An empty name is no name: the level is opened, and nothing is bound in it.
  let name := name.getD ""
  if !name.isEmpty then
    modifyScope (·.bind name v)
    let scope ← currentScope
    let scope ← act (scope.addPlaceholder name v)
    modifyScope fun _ => scope

/-- Render a body in a level of its own. -/
def nested {α : Type} (name : Option String) (v : Value) (body : Render α) : Render α := do
  enterPass name v
  ensuring body Scope.leave

/-- Render a body for an element. The lines of a collapsing block are handed out when the pass is
over, unless they are those of the pass before, `previous`; what the next pass is compared with is
the result. Otherwise they are handed out as they come. -/
def pass (loop : LoopHeader) (body : Render Unit) (previous : Option (List String)) (v : Value) :
    Render (Option (List String)) := do
  if loop.collapse then
    let lines ← nested loop.name v (collecting body)
    -- A repetition is compared with the last pass that was handed out.
    if some lines == previous then
      report .tree .debug ("Collapsing repeated pass of " ++ loop.shown)
      return previous
    else
      emitAll lines
      return some lines
  else
    nested loop.name v body
    return none

/-- Render a body for each element. -/
def passes (loop : LoopHeader) (r : Ref) (body : Render Unit) :
    Nat → Option (List String) → Render Unit
  | 0, _ => throw .endless
  | fuel + 1, previous => do
    match ← act (next r) with
    | none => return
    | some v => passes loop r body fuel (← pass loop body previous v)

/-- Render a block with a body. -/
def blockNode (e : Evaluator) (limit : Nat) (loop : LoopHeader) (body : Render Unit) : Render Unit := do
  match loop.expression with
  | none => nested none .none body
  | some text =>
    let scope ← currentScope
    match ← attempt (scope.evaluate e text) with
    | .error f => recordError (loop.shown ++ ": " ++ f.describe)
    | .ok v =>
      -- From here on failures are no longer caught.
      let r ← act (elementsOf v)
      passes loop r body limit none

end Render

/-! ## Trees -/

namespace Node

open Render

mutual

/-- Render a node. Blocks make at most `limit` passes. -/
def render (e : Evaluator) (limit : Nat) : Node → Render Unit
  | .list _ ns => renderAll e limit ns
  | .line text => do emit (← filterLine e text)
  | .block loop ns => blockNode e limit loop (renderAll e limit ns)
  | .eval text => executeNode e text
  | .insert text indent => insertNode e text indent
  | .operation description actions => perform description (actions.getD [])
  | .error message => recordError message

/-- Render nodes one after the other. -/
def renderAll (e : Evaluator) (limit : Nat) : List Node → Render Unit
  | [] => return
  | n :: ns => do
    n.render e limit
    renderAll e limit ns

end

end Node

/-! ## Whole runs -/

/-- The number of passes of a block after which it is taken to be endless. -/
def passLimit : Nat := 1000000000000

/-- Render a tree whose blocks make at most `limit` passes, and take some of its lines, or all of
them. The lines and, if rendering was ended by something else than the reader, the reason are told;
the session goes on. -/
def Node.runWithin (limit : Nat) (n : Node) (e : Evaluator) (take : Option Nat) (s : Session) :
    Array Line × Option Halt × Session :=
  if take == some 0 then (#[], none, s)
  else
    match n.render e limit { s with lines := #[], wanted := take } with
    | .ok _ s' => (s'.lines, none, { s' with lines := #[], wanted := none })
    | .error .closed s' => (s'.lines, none, { s' with lines := #[], wanted := none })
    | .error h s' => (s'.lines, some h, { s' with lines := #[], wanted := none })

/-- Render a tree and take some of its lines, or all of them. -/
def Node.run (n : Node) (e : Evaluator) (take : Option Nat) (s : Session) :
    Array Line × Option Halt × Session :=
  n.runWithin passLimit e take s

end Stencil
