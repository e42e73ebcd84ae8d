import Stencil.Expr.Eval
import Stencil.Expr.Program
import Stencil.Text.Blank
/-!
# Stencil.Expr.Evaluator -- expressions and statements as texts

An evaluator finds the value of an expression, and executes a statement, which may also bind names
in the innermost layer. The standard evaluator reads texts as programs; whatever goes wrong is told
as a failure of the text. A table evaluator looks texts up and records what it has been asked.
Templates hold literal texts and expressions side by side; `resolve` tells them apart.
-/

namespace Stencil.Expr

/-- What finds values: of an expression, or of a statement together with the innermost layer as the
statement leaves it. -/
structure Evaluator where
  evaluate : Bindings → String → Act Value
  execute : Bindings → String → Act (Value × Layer)

/-! ## The standard evaluator -/

/-- The failure of a text that holds a null character. -/
def nullCharacter : Failure := .fault .badValue "source code string cannot contain null bytes"

/-- The reason that a failure gives. A missed key is shown, and this fails where the key has no
text. -/
def reasonOf (f : Failure) : Act String := do
  match (← get).missed with
  | some k => if f = .fault .missingKey "" then quotedValue k else return f.describe
  | none => return f.describe

/-- Tell failures as failures of a text. -/
def asFailureOf {α : Type} (text : String) (a : Act α) : Act α :=
  tryCatch a fun f => do throw (.expression text (← reasonOf f))

/-- Read an expression text. Of several statements only the first counts. -/
def readExpression (text : String) : Act Statement := do
  if text.toList.contains '\x00' then throw nullCharacter
  match readProgram text.toList with
  | .error f => fault .grammar f.message
  | .ok [] => refuse "Sorry, cannot evaluate empty string"
  | .ok (s :: _) => return s

/-- Start an evaluation. -/
def restart : Act Unit := modify fun m => { m with steps := 0 }

/-- What reading a text can run out of. -/
inductive Exhaustion where
  /-- The text is nested too deep. -/
  | depth (message : String)
  | memory
  deriving DecidableEq, Repr

/-- The failure of a reader that has run out of something. -/
def Exhaustion.failure : Exhaustion → Failure
  | depth message => .fault .recursion message
  | memory => .fault .memory ""

/-- On which texts a reader runs out of something. This differs from one interpreter to another. -/
abbrev Limits := String → Option Exhaustion

/-- Without limits. -/
def unlimited : Limits := fun _ => none

/-- Read a text within limits. A null character is seen before. -/
def readWithin (limits : Limits) (text : String) (read : Act Statement) : Act Statement :=
  match limits text with
  | some x => if text.toList.contains '\x00' then read else throw x.failure
  | none => read

/-- Compute the value of an expression text. -/
def computeText (limits : Limits) (b : Bindings) (text : String) : Act Value := do
  let trimmed := Text.trimString text
  restart
  evalStatement ⟨b, trimmed⟩ (← readWithin limits trimmed (readExpression trimmed))

/-- The value of an expression text. -/
def evaluateWithin (limits : Limits) (b : Bindings) (text : String) : Act Value :=
  asFailureOf text (computeText limits b text)

/-- The value of an expression text that can be read. -/
def evaluateText (b : Bindings) (text : String) : Act Value := evaluateWithin unlimited b text

theorem evaluateText_eq (b : Bindings) (text : String) :
    evaluateText b text = asFailureOf text (restart >>= fun _ =>
      readExpression (Text.trimString text) >>= evalStatement ⟨b, Text.trimString text⟩) := rfl

/-- Compute the value of a term that is part of a statement text. -/
def computeTerm (b : Bindings) (text : String) (t : Term) : Act Value := do
  restart
  evalTerm ⟨b, text⟩ [] t

/-- The value of a term that is part of a statement text. -/
def evaluateTerm (b : Bindings) (text : String) (t : Term) : Act Value :=
  asFailureOf text (computeTerm b text t)

/-- The only statement of a text. -/
def readStatement (text : String) : Act Statement := do
  let trimmed := Text.trim text.toList
  if trimmed.contains '\x00' then throw nullCharacter
  match readProgram trimmed with
  | .error f => throw (.expression text ("invalid syntax: " ++ f.cause.message))
  | .ok [s] => return s
  | .ok _ => throw (.expression text "exactly one statement expected")

/-- The name that a target is. -/
def targetName (text : String) : Term → Act String
  | .name id => return id
  | _ => throw (.expression text "only simple names can be assigned")

/-- Execute a statement. -/
def executeStatement (b : Bindings) (text : String) : Statement → Act (Value × Layer)
  | .assign targets t => do
    let names ← targets.mapM (targetName text)
    let v ← evaluateTerm b text t
    return (v, names.foldl (fun l n => l.put n v) b.inner)
  | .augment target op t => do
    let name ← targetName text target
    if op == .matMul then throw (.expression text "unsupported operator: MatMult")
    match b.get? name with
    | none => throw (.expression text ("'" ++ name ++ "' is not defined"))
    | some old =>
      let operand ← evaluateTerm b text t
      let v ← asFailureOf text (applyBinary op old operand)
      return (v, b.inner.put name v)
  | .expression t => do
    let v ← evaluateTerm b text t
    return (v, b.inner)
  | .absent kind => throw (.expression text ("unsupported statement: " ++ kind.name))

/-- Execute a statement text. -/
def executeWithin (limits : Limits) (b : Bindings) (text : String) : Act (Value × Layer) := do
  executeStatement b text (← readWithin limits (Text.trimString text) (readStatement text))

/-- Execute a statement text that can be read. -/
def executeText (b : Bindings) (text : String) : Act (Value × Layer) :=
  executeWithin unlimited b text

/-- The evaluator that reads texts as programs, within limits. -/
def Evaluator.standardWithin (limits : Limits) : Evaluator :=
  ⟨evaluateWithin limits, executeWithin limits⟩

/-- The evaluator that reads texts as programs. -/
def Evaluator.standard : Evaluator := ⟨evaluateText, executeText⟩

/-! ## A table evaluator -/

/-- The failure that a kind of fault with some arguments stands for. No argument leaves the message
empty, several are shown together. -/
def raised (kind : FaultKind) (args : List Value) : Act Failure := do
  match args with
  | [] => return .fault kind ""
  | [v] =>
    match kind with
    | .missingKey => return .fault kind (← quotedValue v)
    | _ => return .fault kind (← plainText v)
  | vs => return .fault kind (← quotedValue (.tuple vs))

/-- Look a text up, recording that it has been asked for. A text that is not in the table is its own
value. -/
def lookUpText (values : List (String × Value)) (failures : List (String × Failure))
    (text : String) : Act Value := do
  modify fun m => { m with journal := text :: m.journal }
  match failures.lookup text with
  | some f => throw f
  | none => return (values.lookup text).getD (.str text)

/-- The evaluator that looks texts up in tables of values and failures. -/
def Evaluator.table (values : List (String × Value)) (failures : List (String × Failure)) :
    Evaluator :=
  ⟨fun _ text => lookUpText values failures text,
   fun b text => do return (← lookUpText values failures text, b.inner)⟩

/-! ## Literal texts and expressions -/

/-- The text that a replacement or a pattern stands for: after an exclamation mark an expression,
between backticks a literal, otherwise itself. -/
def Evaluator.resolve (e : Evaluator) (b : Bindings) (text : String) : Act String :=
  match text.toList with
  | '!' :: r => do asText (← e.evaluate b (String.ofList (Text.trim r)))
  | '\x60' :: r =>
    return String.ofList (if r.getLast? == some '\x60' then r.dropLast else r)
  | _ => return text

end Stencil.Expr
