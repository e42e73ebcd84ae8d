import Stencil.Failure
import Stencil.Text.Find
import Stencil.Text.Quoted
/-!
# Stencil.Pattern.Fault -- why a text is no pattern

A fault is told with the position at which it was found, and in a pattern of several lines also with
the line and the column. Repetition numbers beyond all bounds are a fault of another kind, and what
only shows when the whole pattern has been read has no position.
-/

namespace Stencil.Pattern

/-- Why a text is no pattern. -/
inductive Cause where
  | endOfEscape
  | badEscape (escape : List Char)
  | incompleteEscape (escape : List Char)
  | octalTooLarge (escape : List Char)
  | unknownCharacter (name : List Char)
  | missing (what : String)
  | unterminatedName (terminator : Char)
  | badGroupName (name : List Char)
  | unknownGroup (name : List Char)
  | redefined (name : List Char) (index before : Nat)
  | openGroup
  | sameLookBehind
  | badReference (index : Nat)
  | badGroupNumber
  | tooManyBranches
  | unterminatedClass
  | badRange (first last : List Char)
  | nothingToRepeat
  | multipleRepeat
  | repeatOrder
  | endOfPattern
  | unknownExtension (text : List Char)
  | unterminatedGroup
  | unterminatedComment
  | globalFlags
  | badFlags (why : String)
  | unknownFlag
  | unbalanced
  | widthBehind
  | repeatTooLarge
  | bothAlphabets
  deriving Repr

/-- A text as it is quoted in a fault. -/
def shown (s : List Char) : String := String.ofList (Text.quoted s)

/-- The wording of a cause. -/
def Cause.message : Cause → String
  | endOfEscape => "bad escape (end of pattern)"
  | badEscape e => "bad escape " ++ String.ofList e
  | incompleteEscape e => "incomplete escape " ++ String.ofList e
  | octalTooLarge e => "octal escape value " ++ String.ofList e ++ " outside of range 0-0o377"
  | unknownCharacter n => "undefined character name " ++ shown n
  | missing what => "missing " ++ what
  | unterminatedName t => "missing " ++ String.singleton t ++ ", unterminated name"
  | badGroupName n => "bad character in group name " ++ shown n
  | unknownGroup n => "unknown group name " ++ shown n
  | redefined n i b =>
    "redefinition of group name " ++ shown n ++ " as group " ++ toString i ++ "; was group " ++
      toString b
  | openGroup => "cannot refer to an open group"
  | sameLookBehind => "cannot refer to group defined in the same lookbehind subpattern"
  | badReference i => "invalid group reference " ++ toString i
  | badGroupNumber => "bad group number"
  | tooManyBranches => "conditional backref with more than two branches"
  | unterminatedClass => "unterminated character set"
  | badRange a b => "bad character range " ++ String.ofList a ++ "-" ++ String.ofList b
  | nothingToRepeat => "nothing to repeat"
  | multipleRepeat => "multiple repeat"
  | repeatOrder => "min repeat greater than max repeat"
  | endOfPattern => "unexpected end of pattern"
  | unknownExtension t => "unknown extension " ++ String.ofList t
  | unterminatedGroup => "missing ), unterminated subpattern"
  | unterminatedComment => "missing ), unterminated comment"
  | globalFlags => "global flags not at the start of the expression"
  | badFlags why => "bad inline flags: " ++ why
  | unknownFlag => "unknown flag"
  | unbalanced => "unbalanced parenthesis"
  | widthBehind => "look-behind requires fixed-width pattern"
  | repeatTooLarge => "the repetition number is too large"
  | bothAlphabets => "ASCII and UNICODE flags are incompatible"

/-- The kind of fault that a cause is. -/
def Cause.kind : Cause → FaultKind
  | repeatTooLarge => .overflow
  | bothAlphabets => .badValue
  | _ => .pattern

/-- A cause with the position at which it was found, if it has one. -/
structure Fault where
  cause : Cause
  position : Option Nat
  deriving Repr

/-- The position in a pattern, with line and column when the pattern has several lines. -/
def placeText (pattern : List Char) (position : Nat) : String :=
  let before := pattern.take position
  let line := before.count '\n' + 1
  let column := (before.reverse.takeWhile (· != '\n')).length + 1
  " at position " ++ toString position ++
    (if pattern.contains '\n' then
      " (line " ++ toString line ++ ", column " ++ toString column ++ ")"
    else "")

/-- A fault in a pattern as a failure. -/
def Fault.failure (f : Fault) (pattern : List Char) : Failure :=
  .fault f.cause.kind (f.cause.message ++
    match f.position with
    | some n => placeText pattern n
    | none => "")

end Stencil.Pattern
