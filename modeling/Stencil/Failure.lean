import Stencil.Text.Lines
import Stencil.Text.Find
/-!
# Stencil.Failure -- causes of failure and the diagnostics made of them

Everything that can go wrong while a template is rendered is a `Failure`: an expression that cannot
be evaluated, a parameter definition that cannot be used, or a fault of some kind raised underneath.
A failure has a message, which stands alone, and a description, which stands beside the text that
failed and so does not repeat it. `diagnostic` turns a message into comment lines for the output.
-/

namespace Stencil

/-- The kinds of fault that operations raise. -/
inductive FaultKind where
  | typeMismatch
  | badValue
  | missingKey
  | badIndex
  | missingAttribute
  | divisionByZero
  | overflow
  | runtime
  | recursion
  | memory
  | lookup
  | badCoding
  | badEncoding
  | badDecoding
  | fileNotFound
  | isDirectory
  | notDirectory
  | fileExists
  | fileName
  | pattern
  | grammar
  | refusal
  | generation
  deriving DecidableEq, Repr

/-- The name under which a kind of fault is shown. -/
def FaultKind.name : FaultKind → String
  | typeMismatch => "TypeError"
  | badValue => "ValueError"
  | missingKey => "KeyError"
  | badIndex => "IndexError"
  | missingAttribute => "AttributeError"
  | divisionByZero => "ZeroDivisionError"
  | overflow => "OverflowError"
  | runtime => "RuntimeError"
  | recursion => "RecursionError"
  | memory => "MemoryError"
  | lookup => "LookupError"
  | badCoding => "UnicodeError"
  | badEncoding => "UnicodeEncodeError"
  | badDecoding => "UnicodeDecodeError"
  | fileNotFound => "FileNotFoundError"
  | isDirectory => "IsADirectoryError"
  | notDirectory => "NotADirectoryError"
  | fileExists => "FileExistsError"
  | fileName => "OSError"
  | pattern => "error"
  | grammar => "SyntaxError"
  | refusal => "InvalidExpression"
  | generation => "LineGenError"

/-- Why something failed. -/
inductive Failure where
  /-- The expression `text` cannot be evaluated. -/
  | expression (text reason : String)
  /-- The parameter definition cannot be used. -/
  | parameter (definition reason : String)
  /-- An operation raised a fault; the message may be empty. -/
  | fault (kind : FaultKind) (message : String)
  deriving DecidableEq, Repr

namespace Failure

/-- The message of a failure, naming the text that failed. -/
def message : Failure → String
  | expression text reason => "Cannot evaluate '" ++ text ++ "': " ++ reason
  | parameter definition reason => "Invalid parameter '" ++ definition ++ "': " ++ reason
  | fault _ message => message

/-- The name of the kind of failure. -/
def kindName : Failure → String
  | expression .. => "ExpressionError"
  | parameter .. => "ParameterError"
  | fault kind _ => kind.name

/-- The message, or the kind of failure when the message is empty. -/
def messageOrKind (f : Failure) : String :=
  if f.message.isEmpty then f.kindName else f.message

/-- A short description: only the reason for a failed expression, since callers show the expression
next to it; otherwise the message or the kind. -/
def describe : Failure → String
  | expression _ reason => reason
  | f => f.messageOrKind

end Failure

/-! ## Diagnostics -/

/-- The mark of a diagnostic in the output. -/
def errorMark : String := "[[ERROR]]"

/-- A message as diagnostic text: the error mark and a comment sign before its first line, a
comment sign before each further one, so that no line of it is taken for output. -/
def diagnostic (message : String) : String :=
  errorMark ++ " // " ++
    String.ofList (Text.join "\n//".toList (Text.lines message.toList))

end Stencil
