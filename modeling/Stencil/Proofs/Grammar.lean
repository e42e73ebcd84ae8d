import Mathlib
import Stencil.Command
import Stencil.Proofs.Blanks
import Stencil.Proofs.Matching
/-!
# Stencil.Proofs.Grammar -- the patterns of commands

The grammar of commands is given by ten patterns, one for each form of command that says something.
A text is tried against them in some order, and the first one that matches the whole text tells what
is demanded. Each pattern is read here as it is written, with no more taken for granted than what a
pattern is read as.
-/

namespace Stencil

open Stencil.Text Stencil.Pattern

/-! ## The forms of commands -/

/-- The forms that a command which says something can have. -/
inductive CommandForm where
  | comment | replacement | matchPlain | matchRegex | blockOpen | blockClose | eval | insert
  | normalize | filename
  deriving DecidableEq, Repr

/-- What an option demands, by its word. -/
def Normalizer.ofWord? (w : List Char) : Option Normalizer :=
  if String.ofList w = spaces.word then some spaces else none

/-- What a group has matched, if it has taken part in a match. -/
def Match.group? (m : Match) (i : Nat) : Option (List Char) := (m.groups.lookup i).map (·.chars)

namespace CommandForm

/-- The pattern of a form as it is written. -/
def text : CommandForm → String
  | comment => "--(?:$|[^>].*)"
  | replacement => "--?>(?P<expr>.*)"
  | matchPlain => "=(?P<pattern>.*)"
  | matchRegex => "~(?P<pattern>.*)"
  | blockOpen =>
    "<<<(?P<opt>/*)\\s*(?:(?P<ident>[a-zA-Z_][a-zA-Z0-9_]*)\\s*:)?\\s*(?P<expr>.*?)\\s*"
  | blockClose => ">>>"
  | eval => "!(?P<expr>.*\\S.*)"
  | insert => ">(?P<expr>.*\\S.*)"
  | normalize => "normali[sz]e(?P<options>(?:\\s+(?:spaces))+)"
  | filename => "filename\\s+(?P<path>\\S+)"

/-- The first match of the pattern of a form with a whole text. -/
def match? (f : CommandForm) (s : List Char) : Option Match := matchText? f.text s

/-- A text is matched by the pattern of a form. -/
def Matches (f : CommandForm) (s : List Char) : Prop := (f.match? s).isSome

/-- What a text of a form demands, from the match of the pattern. -/
def demand (m : Match) : CommandForm → CommandKind
  | comment => .comment
  | replacement => .replacement (Command.trimmed (m.group 1))
  | matchPlain => .pattern .plain (Command.trimmed (m.group 1))
  | matchRegex => .pattern .regex (Command.trimmed (m.group 1))
  | blockOpen =>
    .blockOpen {
      name := (m.group? 2).map String.ofList
      expression := if (m.group 3).isEmpty then none else some (String.ofList (m.group 3))
      collapse := (m.group 1).contains '/' }
  | blockClose => .blockClose
  | eval => .eval (Command.trimmed (m.group 1))
  | insert => .insert (Command.trimmed (m.group 1))
  | normalize => .normalize ((words (m.group 1)).filterMap Normalizer.ofWord?)
  | filename => .filename (String.ofList (m.group 1))

/-- What a text demands as a command of a form. -/
def reading (f : CommandForm) (s : List Char) : Option CommandKind :=
  (f.match? s).map (f.demand ·)

theorem matches_iff (f : CommandForm) (s : List Char) :
    f.Matches s ↔ ∃ k, f.reading s = some k := by
  rw [Matches, reading, ← Option.isSome_iff_exists, Option.isSome_map]

/-! ## The patterns -/

/-- The pattern of a word. -/
def word (w : String) : List Node := w.toList.map sign

/-- A character between words. -/
def blank : Node := .one false [.category .blank false] {}

/-- A character of a word. -/
def letter : Node := .one false [.category .blank true] {}

/-- A group that takes what is left of the text. -/
def rest : Node := .group (some 1) (star (.any false))

/-- A group that takes what is left of the text, which must not be blank. -/
def something : Node :=
  .group (some 1) (.sequence [star (.any false), letter, star (.any false)])

/-- A character that may start the name of a loop. -/
def nameStart : Node := .one false [.range 97 122, .range 65 90, .char 95] {}

/-- A character that may stand in the name of a loop. -/
def nameNext : Node := .one false [.range 97 122, .range 65 90, .range 48 57, .char 95] {}

/-- The name of a loop and the colon behind it. -/
def named : Node :=
  .group none (.sequence [.group (some 2) (.sequence [nameStart, star nameNext]), star blank,
    sign ':'])

/-- The expression of a loop, without the blanks behind it. -/
def expression : List Node := [.group (some 3) (lazyStar (.any false)), star blank]

/-- A word for what lines can be tidied of, and the blanks before it. -/
def tidied : Node :=
  .group none (.sequence [plus blank, .group none (.sequence (word "spaces"))])

/-- The parts of the pattern of a form. -/
def parts : CommandForm → List Node
  | comment =>
    word "--" ++
      [.group none (.choice [.anchor .lastLineEnd false,
        .sequence [.one true [.char 62] {}, star (.any false)]])]
  | replacement => [sign '-', optional (sign '-'), sign '>', rest]
  | matchPlain => word "=" ++ [rest]
  | matchRegex => word "~" ++ [rest]
  | blockOpen =>
    word "<<<" ++
      .group (some 1) (star (sign '/')) :: star blank :: optional named :: star blank :: expression
  | blockClose => word ">>>"
  | eval => word "!" ++ [something]
  | insert => word ">" ++ [something]
  | normalize =>
    word "normali" ++
      [.one false [.char 115, .char 122] {}, sign 'e', .group (some 1) (plus tidied)]
  | filename => word "filename" ++ [plus blank, .group (some 1) (plus letter)]

/-- The pattern of a form is read as its parts. -/
theorem readAs_parts (f : CommandForm) : ReadAs f.text f.parts := by
  cases f <;> decide +kernel

end CommandForm

/-! ## Lines -/

/-- The pattern of command lines as it is written. -/
def commandText : String := "(?P<indent>\\s*)///(?P<body>.*)"

/-- The parts of the pattern of command lines. -/
def commandParts : List Node :=
  .group (some 1) (star CommandForm.blank) :: CommandForm.word trigger ++
    [.group (some 2) (star (.any false))]

theorem command_readAs : ReadAs commandText commandParts := by decide +kernel

/-- The first match of the pattern of command lines with a whole line. -/
def commandMatch? (line : List Char) : Option Match := matchText? commandText line

/-- What a text demands when the patterns are tried in some order. -/
def CommandForm.readIn (order : List CommandForm) (s : List Char) : CommandKind :=
  (order.findSome? (·.reading s)).getD .unknown

/-- The command that a line is when the patterns are tried in some order. -/
def Command.classifyIn (order : List CommandForm) (line : String) : Option Command :=
  (commandMatch? line.toList).map fun m =>
    let text := trim (m.group 2)
    ⟨if text.isEmpty then .blank else CommandForm.readIn order text, String.ofList text,
      String.ofList (m.group 1)⟩

end Stencil
