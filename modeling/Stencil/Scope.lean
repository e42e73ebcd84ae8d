import Stencil.Substitution
/-!
# Stencil.Scope -- the state of rendering

A scope holds the bindings, the rules in force and the errors recorded so far. Rules stand in groups,
groups in frames. The outermost frame and layer of bindings belong to the template; each pass of a
block opens a further level of both. A line goes through the innermost frame first, then outward,
and within a frame through the groups in the order in which they were opened.
-/

namespace Stencil

open Stencil.Expr

/-- The groups of rules of one level. Only the last group, `current`, takes further rules. -/
structure Frame where
  earlier : List (List Rule) := []
  current : List Rule := []
  deriving DecidableEq, Repr, Inhabited

namespace Frame

/-- All groups, in the order in which they were opened. -/
def groups (f : Frame) : List (List Rule) := f.earlier ++ [f.current]

/-- Open a group, unless the current one is still empty. -/
def newGroup (f : Frame) : Frame :=
  if f.current.isEmpty then f else ⟨f.earlier ++ [f.current], []⟩

/-- Add a rule to the current group. -/
def add (r : Rule) (f : Frame) : Frame := { f with current := f.current ++ [r] }

end Frame

/-- The first rule of a group that hits. -/
def groupOf (rules : List Rule) : Substitution := .first (rules.map .rule)

/-- All groups of a frame, one after the other. -/
def Frame.substitution (f : Frame) : Substitution := .all (f.groups.map groupOf)

/-- The state of rendering: bindings, rules and errors. The innermost level stands apart. -/
structure Scope where
  bindings : Bindings := {}
  frame : Frame := {}
  /-- The frames around the innermost one, from the inside out. -/
  enclosing : List Frame := []
  errors : List String := []
  deriving Inhabited

namespace Scope

/-- A scope with bindings of its own and no rules. -/
def ofLayer (l : Layer) : Scope := { bindings := ⟨l, []⟩ }

/-- How many levels are open. -/
def depth (s : Scope) : Nat := s.enclosing.length

/-- All frames, the innermost first. -/
def frames (s : Scope) : List Frame := s.frame :: s.enclosing

/-- The groups that hold rules, in the order in which lines go through them. -/
def groups (s : Scope) : List (List Rule) :=
  s.frames.flatMap fun f => f.groups.filter (!·.isEmpty)

/-- Record an error. -/
def error (s : Scope) (message : String) : Scope := { s with errors := s.errors ++ [message] }

/-! ## Rules -/

/-- Open a group in the innermost frame, unless its current group is still empty. -/
def newGroup (s : Scope) : Scope := { s with frame := s.frame.newGroup }

/-- Add a rule to the current group of the innermost frame. -/
def add (s : Scope) (r : Rule) : Scope := { s with frame := s.frame.add r }

/-- Add a rule in a group of its own. -/
def addAlone (s : Scope) (r : Rule) : Scope := s.newGroup.add r

/-- The rules that tidy the blanks of a line: one blank for several inside the line, none at its
end, before closing punctuation and after an opening parenthesis. -/
def spacing : List Rule :=
  [⟨.regex, "(?<=\\S)\\s\x7b2,\x7d", "\x60 \x60"⟩,
   ⟨.regex, "\\s+$", ""⟩,
   ⟨.regex, "(?<=\\S)\\s+(?=[,;)])", ""⟩,
   ⟨.regex, "(?<=[(])\\s+", ""⟩]

/-- Add the rules for blanks. -/
def normalizeSpaces (s : Scope) : Scope := (spacing.foldl addAlone s).newGroup

/-- Send a text through all groups; a pattern that cannot be used fails. -/
def filterOrFail (s : Scope) (e : Evaluator) (text : String) : Act Outcome :=
  Substitution.applyAll e s.bindings (s.frames.map Frame.substitution) (Outcome.initial text)

/-- Send a text through all groups. A pattern that cannot be used is recorded as an error and shown
instead of the line. -/
def filter (s : Scope) (e : Evaluator) (text : String) : Act (Outcome × Scope) :=
  tryCatch (do return (← s.filterOrFail e text, s)) fun f =>
    return (⟨false, diagnostic f.message⟩, s.error f.messageOrKind)

/-! ## Levels -/

/-- Open a level. -/
def enter (s : Scope) : Scope :=
  { s with
    bindings := s.bindings.push []
    frame := {}
    enclosing := s.frames }

/-- Close the innermost level. -/
def leave (s : Scope) : Scope :=
  match s.bindings.outer, s.enclosing with
  | l :: ls, f :: fs => { s with bindings := ⟨l, ls⟩, frame := f, enclosing := fs }
  | _, _ => s

/-- The rule that puts the text of a value for the name of a variable with a low line before it,
where it is not part of a longer name. -/
def placeholder (name text : String) : Rule :=
  ⟨.regex,
   "(?<![A-Za-z0-9_])_" ++ String.ofList (Pattern.quote name.toList) ++ "(?![A-Za-z0-9_])",
   "\x60" ++ text ++ "\x60"⟩

/-- Bind a variable in the innermost level. -/
def bind (s : Scope) (name : String) (v : Value) : Scope :=
  { s with bindings := s.bindings.put name v }

/-- Add the rule for a variable. -/
def addPlaceholder (s : Scope) (name : String) (v : Value) : Act Scope := do
  return (s.add (placeholder name (← asText v))).newGroup

/-! ## Expressions -/

/-- The value of an expression. -/
def evaluate (s : Scope) (e : Evaluator) (text : String) : Act Value := e.evaluate s.bindings text

/-- Execute a statement. -/
def execute (s : Scope) (e : Evaluator) (text : String) : Act (Value × Scope) := do
  let (v, inner) ← e.execute s.bindings text
  return (v, { s with bindings := ⟨inner, s.bindings.outer⟩ })

end Scope

end Stencil
