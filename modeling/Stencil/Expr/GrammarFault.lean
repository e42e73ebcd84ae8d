import Stencil.Failure
/-!
# Stencil.Expr.GrammarFault -- why a text is no program

The causes for which a text is not read as statements and expressions. Some lie in the characters,
some in the tokens; the last and most general one is that no rule goes on at some token. A cause
is shown with the line on which it was found.
-/

namespace Stencil.Expr

/-- What an assignment, a deletion or another use of a term as a target was tried on. -/
inductive TargetUse where
  | assign | delete
  deriving DecidableEq, Repr

/-- Why a text is no program. -/
inductive GrammarCause where
  /-- No rule goes on here. -/
  | unexpected
  /-- The text is over although more has to follow. -/
  | ended
  | neverClosed (opening : Char)
  | unmatched (closing : Char)
  | mismatched (closing opening : Char) (line : Option Nat)
  | nestedTooDeep
  | unterminatedText (line : Nat)
  | unterminatedLongText (line : Nat)
  | afterContinuation
  | badCharacter (c : Char)
  | hiddenCharacter (c : Char)
  | badNumber (kind : String)
  | badDigit (digit : Char) (kind : String)
  | leadingZeros
  | tooManyDigits (reason : String)
  | dedentMismatch
  | indentedTooDeep
  | mixedIndentation
  | unexpectedIndent
  | unexpectedUnindent
  | blockExpected (after : String)
  | expected (token : String)
  | commaForgotten
  | elseExpected
  | parenthesesMissing (name : String)
  | equalsInExpression
  | cannotAssignHere (what : String)
  | badTarget (use : TargetUse) (what : String)
  | cannotAssign (what : String)
  | assignToYield
  | badAugmented (what : String)
  | annotatedSeveral (what : String)
  | annotationTarget
  | badNamed (what : String)
  | assignmentInCall
  | starAfterDouble
  | positionalAfterUnpacking
  | positionalAfterKeyword
  | bareGenerator
  | unpackingInComprehension
  | bareComprehensionTarget
  | dictUnpackingInComprehension
  | starredHere
  | doubleStarredHere
  | starredDictValue
  | colonAfterKey
  | valueAfterColon
  | trailingComma
  | badParameters (reason : String)
  | severalCaught
  | nothingCaught
  | handlerExpected
  | mixedHandlers
  | badPattern (reason : String)
  | mixedBytes
  | wideBytes
  | badEscape (reason : String)
  | fstring (reason : String)
  /-- A cause inside the braces of a formatted text. -/
  | inFstring (cause : GrammarCause)
  deriving Repr

/-- The hexadecimal digits of a code point, at least four of them. -/
def codePointText (c : Char) : String :=
  let ds := (Nat.toDigits 16 c.toNat).map Char.toUpper
  String.ofList (List.replicate (4 - ds.length) '0' ++ ds)

/-- The wording of a cause. -/
def GrammarCause.message : GrammarCause → String
  | unexpected => "invalid syntax"
  | ended => "unexpected EOF while parsing"
  | neverClosed c => "'" ++ String.singleton c ++ "' was never closed"
  | unmatched c => "unmatched '" ++ String.singleton c ++ "'"
  | mismatched c o line =>
    "closing parenthesis '" ++ String.singleton c ++ "' does not match opening parenthesis '" ++
      String.singleton o ++ "'" ++
      (match line with
        | some n => " on line " ++ toString n
        | none => "")
  | nestedTooDeep => "too many nested parentheses"
  | unterminatedText n => "unterminated string literal (detected at line " ++ toString n ++ ")"
  | unterminatedLongText n =>
    "unterminated triple-quoted string literal (detected at line " ++ toString n ++ ")"
  | afterContinuation => "unexpected character after line continuation character"
  | badCharacter c =>
    "invalid character '" ++ String.singleton c ++ "' (U+" ++ codePointText c ++ ")"
  | hiddenCharacter c => "invalid non-printable character U+" ++ codePointText c
  | badNumber kind => "invalid " ++ kind ++ " literal"
  | badDigit d kind => "invalid digit '" ++ String.singleton d ++ "' in " ++ kind ++ " literal"
  | leadingZeros =>
    "leading zeros in decimal integer literals are not permitted; use an 0o prefix for octal integers"
  | tooManyDigits reason =>
    reason ++ " - Consider hexadecimal for huge integer literals to avoid decimal conversion limits."
  | dedentMismatch => "unindent does not match any outer indentation level"
  | indentedTooDeep => "too many levels of indentation"
  | mixedIndentation => "inconsistent use of tabs and spaces in indentation"
  | unexpectedIndent => "unexpected indent"
  | unexpectedUnindent => "unexpected unindent"
  | blockExpected after => "expected an indented block" ++ after
  | expected token => "expected " ++ token
  | commaForgotten => "invalid syntax. Perhaps you forgot a comma?"
  | elseExpected => "expected 'else' after 'if' expression"
  | parenthesesMissing name =>
    "Missing parentheses in call to '" ++ name ++ "'. Did you mean " ++ name ++ "(...)?"
  | equalsInExpression => "invalid syntax. Maybe you meant '==' or ':=' instead of '='?"
  | cannotAssignHere what =>
    "cannot assign to " ++ what ++ " here. Maybe you meant '==' instead of '='?"
  | badTarget .assign what => "cannot assign to " ++ what
  | badTarget .delete what => "cannot delete " ++ what
  | cannotAssign what => "cannot assign to " ++ what
  | assignToYield => "assignment to yield expression not possible"
  | badAugmented what => "'" ++ what ++ "' is an illegal expression for augmented assignment"
  | annotatedSeveral what => "only single target (not " ++ what ++ ") can be annotated"
  | annotationTarget => "illegal target for annotation"
  | badNamed what => "cannot use assignment expressions with " ++ what
  | assignmentInCall => "expression cannot contain assignment, perhaps you meant \"==\"?"
  | starAfterDouble => "iterable argument unpacking follows keyword argument unpacking"
  | positionalAfterUnpacking => "positional argument follows keyword argument unpacking"
  | positionalAfterKeyword => "positional argument follows keyword argument"
  | bareGenerator => "Generator expression must be parenthesized"
  | unpackingInComprehension => "iterable unpacking cannot be used in comprehension"
  | bareComprehensionTarget => "did you forget parentheses around the comprehension target?"
  | dictUnpackingInComprehension => "dict unpacking cannot be used in dict comprehension"
  | starredHere => "cannot use starred expression here"
  | doubleStarredHere => "cannot use double starred expression here"
  | starredDictValue => "cannot use a starred expression in a dictionary value"
  | colonAfterKey => "':' expected after dictionary key"
  | valueAfterColon => "expression expected after dictionary key and ':'"
  | trailingComma => "trailing comma not allowed without surrounding parentheses"
  | badParameters reason => reason
  | severalCaught => "multiple exception types must be parenthesized"
  | nothingCaught => "expected one or more exception types"
  | handlerExpected => "expected 'except' or 'finally' block"
  | mixedHandlers => "cannot have both 'except' and 'except*' on the same 'try'"
  | badPattern reason => reason
  | mixedBytes => "cannot mix bytes and nonbytes literals"
  | wideBytes => "bytes can only contain ASCII literal characters"
  | badEscape reason => reason
  | fstring reason => "f-string: " ++ reason
  | inFstring cause => "f-string: " ++ cause.message

/-- A cause and the line on which it was found. -/
structure GrammarFault where
  cause : GrammarCause
  line : Nat
  deriving Repr

/-- A fault with its line. -/
def GrammarFault.message (f : GrammarFault) : String :=
  f.cause.message ++ " (<unknown>, line " ++ toString f.line ++ ")"

end Stencil.Expr
