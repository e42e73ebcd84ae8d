import Stencil.Expr.Same
import Stencil.FileTree
import Stencil.Render
import Stencil.Settings
import Stencil.Template
import Stencil.Text.Lines
/-!
# Stencil.Generator -- from templates to files

A run renders each template in turn and writes its lines to the place that mirrors the template's
place below the base directory. Every template has a scope of its own; one that recorded errors has
still been written. Listeners hear of the beginning and the end of each template. The first failure
of a file ends the run.
-/

namespace Stencil

open Stencil.Expr

/-- What came of a template. -/
structure UnitResult where
  source : Path
  output : Path
  errors : List String := []
  deriving DecidableEq, Repr

/-- Whether no error was recorded. -/
def UnitResult.ok (r : UnitResult) : Bool := r.errors.isEmpty

/-- What listeners hear. -/
inductive Event where
  | began (source : Path)
  | ended (result : UnitResult)
  deriving DecidableEq, Repr

/-- What happens in a run: a listener hears something, or a part of the program reports. -/
inductive Occurrence where
  | heard (listener : String) (e : Event)
  | reported (r : Report)
  deriving DecidableEq, Repr

/-- The state of a run: the files, the machine, and what has happened, the latest first. -/
structure Site where
  files : FileTree
  machine : Machine := {}
  history : List Occurrence := []
  deriving Inhabited

/-- What stays the same in a run. -/
structure Setup where
  settings : Settings
  evaluator : Evaluator := .standard
  listeners : List String := []
  /-- The working directory. -/
  working : Path

/-- A step of a run. -/
abbrev Generating (α : Type) := EStateM Failure Site α

namespace Generator

/-- Operate on the files. -/
def filing {α : Type} (a : Filing α) : Generating α := fun s =>
  match a s.files with
  | .ok v t => .ok v { s with files := t }
  | .error f t => .error f { s with files := t }

/-- Note what has happened, the latest last. -/
def note (os : List Occurrence) : Generating Unit :=
  modify fun s => { s with history := os.reverse ++ s.history }

/-- Let all listeners hear something. -/
def announce (c : Setup) (e : Event) : Generating Unit := note (c.listeners.map (.heard · e))

/-! ## Places -/

/-- Where a template is read from. -/
def sourceOf (c : Setup) (file : Path) : Path := (c.settings.base.join file).normal

/-- Where the output of a source goes if the template does not tell: to the place below the output
directory to which the way is the same as from the base directory to the source. -/
def usualOutput (c : Setup) (source : Path) : Path :=
  (c.settings.output.join (Path.relative c.working c.settings.base source)).normal

/-! ## Reading -/

/-- The lines of a file. -/
def readLines (c : Setup) (source : Path) : Generating (List String) := do
  let bytes ← filing (Filing.read c.working source)
  match c.settings.encoding.read bytes with
  | .ok s => return (Text.fileLines s).map String.ofList
  | .error f => throw f

/-- Read a template, noting what is reported about it. -/
def readTemplate (c : Setup) (source : Path) : Generating Template := do
  let t := Template.parse (← readLines c source)
  note (t.reports.map .reported)
  return t

/-! ## Writing -/

/-- The texts that are written for lines: each line, and after it its end. -/
def pieces (ls : List String) : List (List Char) := ls.flatMap fun l => [l.toList, ['\n']]

/-- The bytes of lines up to the first that cannot be encoded, and what happens there: how many
lines come before it, and the failure. -/
def encodeLines (k : Text.Codec) (ls : List String) : List UInt8 × Option (Nat × Failure) :=
  let (bytes, stop) := k.writeAll [] (pieces ls)
  (bytes, stop.map fun (n, f) => (n / 2, f))

/-- Render a tree in a scope of its own on a machine, taking some or all lines. -/
def renderIn (c : Setup) (root : Node) (take : Option Nat) (m : Machine) :
    Array Line × Option Halt × Session :=
  root.run c.evaluator take { scope := Scope.ofLayer c.settings.parameters, machine := m }

/-- The failure that a halt stands for. -/
def haltFailure : Halt → Option Failure
  | .failed f => some f
  | .closed => none
  | .endless => some (.fault .memory "")

/-- What rendering a template gives: the bytes of its lines, and the session and the failure, if
there was one, with which it ended. -/
structure Rendering where
  bytes : List UInt8
  session : Session
  failure : Option Failure

/-- Render a tree on a machine. Lines are encoded as they are handed out: when one of them cannot be,
nothing behind it happens. -/
def rendering (c : Setup) (root : Node) (m : Machine) : Rendering :=
  let (lines, halt, session) := renderIn c root none m
  let (bytes, stop) := encodeLines c.settings.encoding (lines.toList.map (·.text))
  match stop with
  -- Rendering has come as far as the line that cannot be encoded.
  | some (n, f) => ⟨bytes, (renderIn c root (some (n + 1)) m).2.2, some f⟩
  | none => ⟨bytes, session, halt.bind haltFailure⟩

/-- The machine after a template has been rendered. Where the cells it found are as they were, none
of them refers to the cells it made itself, and these are given up. -/
def settled (before after : Machine) : Machine :=
  { before.fresh with
    cells := if sameCells before.cells after.cells then before.cells else after.cells
    journal := after.journal ++ before.journal }

/-- Render a tree into a file. The lines before a failure stay written. The errors recorded are the
result. -/
def renderInto (c : Setup) (root : Node) (output : Path) : Generating (List String) := do
  -- The file is emptied first, so it is there even when rendering fails.
  filing (Filing.write c.working output [])
  let before := (← get).machine
  let r := rendering c root before.fresh
  modify fun s => { s with machine := settled before r.session.machine }
  note (r.session.reports.reverse.map .reported)
  filing (Filing.write c.working output r.bytes)
  match r.failure with
  | some f => throw f
  | none => return r.session.scope.errors

/-! ## Runs -/

/-- Generate the output of a template. -/
def generateUnit (c : Setup) (file : Path) : Generating UnitResult := do
  let source := sourceOf c file
  announce c (.began source)
  let template ← readTemplate c source
  let output := template.output (usualOutput c source)
  filing (Filing.makeDirectory c.working output.parent)
  let errors ← renderInto c template.root output
  let result : UnitResult := ⟨source, output, errors⟩
  announce c (.ended result)
  return result

/-- Generate the output of every template. -/
def generate (c : Setup) : Generating (List UnitResult) := c.settings.files.mapM (generateUnit c)

/-! ## Places of a run -/

/-- Where the templates of a run are read from. -/
def sources (c : Setup) : List Path := c.settings.files.map (sourceOf c)

/-- Where the outputs of a run go, as far as its templates can be read. -/
def outputs (c : Setup) (files : FileTree) : List Path :=
  (sources c).filterMap fun source =>
    match readTemplate c source { files } with
    | .ok t _ => some (t.output (usualOutput c source))
    | .error .. => none

end Generator

end Stencil
