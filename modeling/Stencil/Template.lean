import Stencil.Log
import Stencil.Path
import Stencil.Tree
import Stencil.Text.Lines
/-!
# Stencil.Template -- building trees

The lines of a template are read once, from top to bottom; each gives one node, which goes to the
innermost open block. A pattern waits for its replacement, whatever stands between them. A closing
line without an open block, a pattern or replacement without its partner, and an unknown command
give error nodes, so that building never fails.
-/

namespace Stencil

/-- A pattern that waits for its replacement. -/
structure PendingMatch where
  mode : MatchMode
  pattern : String
  deriving DecidableEq, Repr

/-- A waiting pattern as it is shown. -/
def PendingMatch.shown (p : PendingMatch) : String := p.mode.sign ++ p.pattern

/-- A block whose end has not been read: its head and its nodes so far, the latest first. -/
structure OpenBlock where
  loop : LoopHeader
  nodes : List Node := []

/-- The state of building: the nodes at the top so far (the latest first), the open blocks (the
innermost first), the waiting pattern, the path of the output, and the reports (the latest first). -/
structure Builder where
  top : List Node := []
  blocks : List OpenBlock := []
  pending : Option PendingMatch := none
  filename : Option Path := none
  reports : List Report := []

namespace Builder

/-! ## Nodes -/

/-- Put a node into the innermost open block. -/
def append (b : Builder) (n : Node) : Builder :=
  match b.blocks with
  | [] => { b with top := n :: b.top }
  | o :: os => { b with blocks := { o with nodes := n :: o.nodes } :: os }

/-- Open a block. -/
def openBlock (b : Builder) (loop : LoopHeader) : Builder :=
  { b with blocks := ⟨loop, []⟩ :: b.blocks }

/-- The node of a block. -/
def blockNode (o : OpenBlock) : Node := .block o.loop o.nodes.reverse

/-- Close the innermost block, if one is open. -/
def closeBlock (b : Builder) : Option (OpenBlock × Builder) :=
  match b.blocks with
  | [] => none
  | o :: os => some (o, { b with blocks := os }.append (blockNode o))

/-- Report something. -/
def report (b : Builder) (level : Level) (message : String) : Builder :=
  { b with reports := ⟨.builder, level, message⟩ :: b.reports }

/-! ## Commands -/

/-- The node of a replacement, and what then waits. -/
def pairReplacement (pending : Option PendingMatch) (text : String) :
    Node × Option PendingMatch :=
  match pending with
  | none => (.error ("replacement without match: " ++ text), none)
  | some p =>
    (.operation (p.shown ++ "->" ++ text) (some [.rule ⟨p.mode, p.pattern, text⟩]), none)

/-- The node of a pattern, and what then waits. -/
def pairPattern (pending : Option PendingMatch) (mode : MatchMode) (text : String) :
    Node × Option PendingMatch :=
  match pending with
  -- The new pattern is lost with the one that waited.
  | some p => (.error ("match without replacement: " ++ p.shown), none)
  | none => (.operation (PendingMatch.shown ⟨mode, text⟩) none, some ⟨mode, text⟩)

/-- Read a command. -/
def command (b : Builder) (c : Command) : Builder :=
  match c.kind with
  | .blank => b.append (.operation "<blank>" none)
  | .comment => b.append (.operation c.text none)
  | .replacement text =>
    let (n, pending) := pairReplacement b.pending text
    { b with pending }.append n
  | .pattern mode text =>
    let (n, pending) := pairPattern b.pending mode text
    { b with pending }.append n
  | .blockOpen loop => b.openBlock loop
  | .blockClose =>
    match b.closeBlock with
    | none => b.append (.error "unbalanced block close")
    -- The block is in place already; the note of its end stands behind it.
    | some (o, b') => b'.append (.operation ("pop " ++ (blockNode o).describe) none)
  | .eval text => b.append (.eval text)
  | .insert text => b.append (.insert text c.indent)
  | .normalize options => b.append (.operation c.text (some (options.map .normalize)))
  | .filename path =>
    let path := Path.ofText path
    ({ b with filename := some path }.report .debug ("Output file name set to " ++ path.shown)).append
      (.operation c.text none)
  | .unknown => b.append (.error ("unknown command: " ++ c.text))

/-- Read a line; line ends after it are ignored. -/
def line (b : Builder) (text : String) : Builder :=
  let text := String.ofList (Text.chomp text.toList)
  match Command.classify text with
  | none => b.append (.line text)
  | some c => b.command c

/-! ## The end -/

/-- Report a pattern that still waits. -/
def dropPending (b : Builder) : Builder :=
  match b.pending with
  | none => b
  | some p =>
    { b with pending := none }.report .warning
      ("Ignoring match without replacement at end of template: " ++ p.shown)

/-- The heads of the open blocks, the outermost first. -/
def openLoops (b : Builder) : List LoopHeader := (b.blocks.map (·.loop)).reverse

/-- Close open blocks from the inside out. `inner` is the block that was closed last. -/
def closeAll (inner : Option Node) : List OpenBlock → List Node → List Node
  | [], top => inner.toList ++ top
  | o :: os, top => closeAll (some (blockNode { o with nodes := inner.toList ++ o.nodes })) os top

/-- The nodes of the template. Blocks that are still open are closed and told in an error node. -/
def finish (b : Builder) : List Node :=
  let nodes := closeAll none b.blocks b.top
  if b.blocks.isEmpty then nodes.reverse
  else
    (.error ("unbalanced block: not closed: " ++
      ", ".intercalate (b.openLoops.map LoopHeader.shown)) :: nodes).reverse

/-- The root of the tree that has been built, and the builder, which keeps the nodes at the top. -/
def complete (b : Builder) : Node × Builder :=
  let b := b.dropPending
  (.list "<root>" b.finish, { b with top := b.finish.reverse, blocks := [] })

end Builder

/-! ## One template after the other -/

/-- Where the lines of a template come from: the lines that can be read, and why no further ones can
be, where it is not for the end of the template. -/
structure LineSource where
  lines : List String
  failure : Option Failure := none
  deriving DecidableEq, Repr

namespace Builder

/-- Begin a template. Of the templates before it nothing is kept but the reports. -/
def restart (b : Builder) : Builder := { reports := b.reports }

/-- Build the tree of a template from its lines. -/
def build (b : Builder) (lines : List String) : Node × Builder :=
  (lines.foldl line b.restart).complete

/-- Build the tree of a template from a source. One that fails leaves the builder where it is then,
with blocks open and a pattern waiting. -/
def parse (source : LineSource) : EStateM Failure Builder Node := fun b =>
  match source.failure with
  | some f => .error f (source.lines.foldl line b.restart)
  | none =>
    let (root, b) := b.build source.lines
    .ok root b

end Builder

/-! ## Templates -/

/-- A template: its tree, the path it gives for its output, and what was reported about it. -/
structure Template where
  root : Node
  filename : Option Path := none
  reports : List Report := []
  deriving Inhabited

/-- Build a template from its lines. -/
def Template.parse (lines : List String) : Template :=
  let (root, b) := Builder.build {} lines
  ⟨root, b.filename, b.reports.reverse⟩

/-- Where the output of a template goes: to the path it gives, seen from the directory of the usual
output, or to the usual output itself. -/
def Template.output (t : Template) (usual : Path) : Path :=
  match t.filename with
  | none => usual
  | some path => (usual.parent.join path).normal

end Stencil
