import Stencil.Substitution
import Stencil.Text.Blank
/-!
# Stencil.Command -- the command lines of a template

A line whose first characters after blanks are three slashes is a command; every other line is
output. What follows the slashes tells the kind of the command, and no two kinds share a text except
that three closing brackets, which end a block, would also be an insertion.
-/

namespace Stencil

/-! ## What a command is -/

/-- The head of a block: the name bound to each element, the expression for the elements (none for
a block that is passed once), and whether passes that repeat the one before are dropped. -/
structure LoopHeader where
  name : Option String := none
  expression : Option String := none
  collapse : Bool := false
  deriving DecidableEq, Repr, Inhabited

/-- A head as it is shown. An empty name or expression is not shown. -/
def LoopHeader.shown (h : LoopHeader) : String :=
  let name := h.name.getD ""
  let expression := h.expression.getD ""
  "<<<" ++ (if h.collapse then "/" else "") ++
    (if name.isEmpty then "" else " " ++ name ++ ":") ++
    (if expression.isEmpty then "" else " " ++ expression)

/-- What lines can be tidied of. -/
inductive Normalizer where
  | spaces
  deriving DecidableEq, Repr

/-- The word for what lines can be tidied of. -/
def Normalizer.word : Normalizer → String
  | spaces => "spaces"

/-- What a command demands. -/
inductive CommandKind where
  | blank
  | comment
  /-- The pattern of a rule, whose replacement is to follow. -/
  | pattern (mode : MatchMode) (text : String)
  | replacement (text : String)
  /-- Execute a statement. -/
  | eval (text : String)
  /-- Insert the value of an expression. -/
  | insert (text : String)
  | blockOpen (loop : LoopHeader)
  | blockClose
  /-- The path of the output. -/
  | filename (path : String)
  | normalize (options : List Normalizer)
  | unknown
  deriving DecidableEq, Repr

namespace CommandKind

/-- The name of a kind of command. -/
def name : CommandKind → String
  | blank => "blank"
  | comment => "comment"
  | pattern .plain _ => "match-plain"
  | pattern .regex _ => "match-regex"
  | replacement _ => "replacement"
  | eval _ => "eval"
  | insert _ => "insert"
  | blockOpen _ => "block-open"
  | blockClose => "block-close"
  | filename _ => "filename"
  | normalize _ => "normalize"
  | unknown => "unknown"

/-- The pattern, expression or path of a command. -/
def argument : CommandKind → Option String
  | pattern _ t | replacement t | eval t | insert t | filename t => some t
  | _ => none

/-- The head of a block. -/
def loop : CommandKind → Option LoopHeader
  | blockOpen h => some h
  | _ => none

/-- The options of a command. -/
def options : CommandKind → List String
  | normalize os => os.map Normalizer.word
  | _ => []

end CommandKind

/-- A command: what it demands, its text without blanks around it, and the blanks before it. -/
structure Command where
  kind : CommandKind
  text : String
  indent : String := ""
  deriving DecidableEq, Repr

/-- The sign of a command. -/
def trigger : String := "///"

/-- A command as it is shown. -/
def Command.shown (c : Command) : String := trigger ++ c.text

namespace Command

open Text

/-! ## Kinds of commands -/

/-- A text without blanks around it. -/
def trimmed (s : List Char) : String := String.ofList (trim s)

/-- Whether a character may start a name. -/
def startsName (c : Char) : Bool :=
  ('a' ≤ c && c ≤ 'z') || ('A' ≤ c && c ≤ 'Z') || c == '_'

/-- Whether a character may stand in a name. -/
def inName (c : Char) : Bool := startsName c || ('0' ≤ c && c ≤ '9')

/-- The name and colon at the start of a text, and what follows. -/
def loopName (s : List Char) : Option String × List Char :=
  match s with
  | [] => (none, [])
  | c :: r =>
    if startsName c then
      match (r.dropWhile inName).dropWhile isBlank with
      | ':' :: rest => (some (String.ofList (c :: r.takeWhile inName)), rest)
      -- Without a colon what looks like a name belongs to the expression.
      | _ => (none, s)
    else (none, s)

/-- The head of a block, from what follows the opening brackets. -/
def readLoop (s : List Char) : LoopHeader :=
  let (name, rest) := loopName ((s.dropWhile (· == '/')).dropWhile isBlank)
  let expression := trim rest
  { name := name
    expression := if expression.isEmpty then none else some (String.ofList expression)
    collapse := s.head? == some '/' }

/-- The options of a tidying command, from what follows its name. -/
def readOptions (s : List Char) : Option (List Normalizer) :=
  match s, words s with
  | c :: _, w :: ws =>
    if isBlank c && (w :: ws).all (· == "spaces".toList) then some ((w :: ws).map fun _ => .spaces)
    else none
  | _, _ => none

/-- The path of a command that names the output, from what follows its name. -/
def readPath (s : List Char) : Option String :=
  match s, words s with
  | c :: _, [w] => if isBlank c then some (String.ofList w) else none
  | _, _ => none

/-- A command that is given by a word. -/
def kindByWord (s : List Char) : CommandKind :=
  match afterPrefix? "normalise".toList s <|> afterPrefix? "normalize".toList s with
  | some r =>
    match readOptions r with
    | some os => .normalize os
    | none => .unknown
  | none =>
    match afterPrefix? "filename".toList s with
    | some r =>
      match readPath r with
      | some p => .filename p
      | none => .unknown
    | none => .unknown

/-- What a text without blanks around it demands. -/
def kindOf (s : List Char) : CommandKind :=
  match s with
  | [] => .blank
  | '-' :: '>' :: r => .replacement (trimmed r)
  -- The long arrow must come before the comment, which starts with the same two dashes.
  | '-' :: '-' :: '>' :: r => .replacement (trimmed r)
  | '-' :: '-' :: _ => .comment
  | '=' :: r => .pattern .plain (trimmed r)
  | '~' :: r => .pattern .regex (trimmed r)
  | '<' :: '<' :: '<' :: r => .blockOpen (readLoop r)
  | ['>', '>', '>'] => .blockClose
  -- A sign with nothing behind it demands nothing that could be done.
  | ['!'] => .unknown
  | '!' :: r => .eval (trimmed r)
  | ['>'] => .unknown
  | '>' :: r => .insert (trimmed r)
  | s => kindByWord s

/-! ## Lines -/

/-- What stands after the sign of a command, and the blanks before it. -/
def split? (line : List Char) : Option (List Char × List Char) :=
  match afterPrefix? trigger.toList (line.dropWhile isBlank) with
  | some body => if body.contains '\n' then none else some (line.takeWhile isBlank, body)
  | none => none

/-- The command that a line is; a line of output is none. -/
def classify (line : String) : Option Command :=
  (split? line.toList).map fun (indent, body) =>
    let text := trim body
    ⟨kindOf text, String.ofList text, String.ofList indent⟩

end Command

/-- Whether a line is a command. -/
def isCommand (line : String) : Bool := (Command.split? line.toList).isSome

end Stencil
