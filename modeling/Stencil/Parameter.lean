import Stencil.Expr.Evaluator
import Stencil.Text.Identifier
/-!
# Stencil.Parameter -- definitions of parameters

A definition binds a name to the value of an expression. The name stands before the first equals
sign or colon and the expression after it; a definition without one, or with nothing before it, is a
name alone, which is bound to true. The expression is evaluated before the name is checked.
-/

namespace Stencil

open Stencil.Expr

namespace Parameter

/-- Whether a character ends the name in a definition. -/
def endsName (c : Char) : Bool := c == '=' || c == ':'

/-- The name and the expression of a definition; a name alone has none. -/
def cut (s : List Char) : List Char × Option (List Char) :=
  match s.span (!endsName ·) with
  | ([], _) | (_, []) => (s, none)
  | (name, _ :: expression) => (name, some expression)

/-- The value that a definition gives. Only failed expressions are told as failed definitions. -/
def valueOf (e : Evaluator) (definition : String) : Option (List Char) → Act Value
  | none => return .bool true
  | some expression =>
    tryCatch (e.evaluate {} (String.ofList expression)) fun
      | .expression _ reason => throw (.parameter definition reason)
      | f => throw f

/-- The name and value of a definition. -/
def parse (e : Evaluator) (definition : String) : Act (String × Value) := do
  let (name, expression) := cut definition.toList
  let name := Text.trim name
  let v ← valueOf e definition expression
  if Text.isIdentifier name then return (String.ofList name, v)
  else
    throw (.parameter definition ("'" ++ String.ofList name ++ "' is not a valid name"))

/-- The bindings of several definitions, of which later ones win. -/
def parseAll (e : Evaluator) (definitions : List String) : Act Layer := do
  return Layer.ofPairs (← definitions.mapM (parse e))

end Parameter

end Stencil
