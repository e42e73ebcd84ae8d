import Stencil.Expr.Arith
/-!
# Stencil.Expr.Term -- expressions and statements

What a program text is read into. Only what can be evaluated keeps its parts; of terms and
statements that are read but never evaluated only the kind is kept, since that is all that the
refusal names.
-/

namespace Stencil.Expr

/-- The comparison operators. -/
inductive CompareOp where
  | eq | ne | lt | le | gt | ge | is | isNot | isIn | notIn
  deriving DecidableEq, Repr, Inhabited

/-- Kinds of terms that are read but not evaluated. -/
inductive AbsentTerm where
  | lambda | setComprehension | named | yield | yieldFrom | await
  deriving DecidableEq, Repr, Inhabited

/-- The name under which an absent kind of term is refused. -/
def AbsentTerm.name : AbsentTerm → String
  | lambda => "Lambda"
  | setComprehension => "SetComp"
  | named => "NamedExpr"
  | yield => "Yield"
  | yieldFrom => "YieldFrom"
  | await => "Await"

mutual

/-- An expression. -/
inductive Term where
  | const (v : Value)
  | name (id : String)
  | unary (op : UnaryOp) (t : Term)
  | binary (op : BinaryOp) (a b : Term)
  /-- The operands of a chain of `and` or of `or`. -/
  | boolean (isAnd : Bool) (ts : List Term)
  | compare (first : Term) (rest : List Comparand)
  | conditional (test yes no : Term)
  | call (callee : Term) (args : List Term) (named : List Named)
  | subscript (t k : Term)
  | slice (lower upper step : Option Term)
  | attribute (t : Term) (name : String)
  /-- The pieces of a formatted text. -/
  | joined (parts : List Term)
  /-- A value laid out by a format. -/
  | formatted (t : Term) (format : Option Term)
  | dict (items : List Item)
  | list (ts : List Term)
  | tuple (ts : List Term)
  | set (ts : List Term)
  | starred (t : Term)
  /-- A comprehension; `lazy` tells that it was written as a generator. -/
  | comprehension (lazy : Bool) (element : Term) (clauses : List Clause)
  | dictComprehension (key value : Term) (clauses : List Clause)
  | absent (kind : AbsentTerm)

/-- An operator and the operand on its right. -/
inductive Comparand where
  | mk (op : CompareOp) (t : Term)

/-- An argument given by name, or a spread of several when there is no name. -/
inductive Named where
  | mk (name : Option String) (t : Term)

/-- An entry of a dictionary, or a spread of several. -/
inductive Item where
  | entry (key value : Term)
  | spread (t : Term)

/-- One `for` of a comprehension with its conditions. -/
inductive Clause where
  | mk (target source : Term) (conditions : List Term)

end

instance : Inhabited Term := ⟨.const .none⟩
instance : Inhabited Clause := ⟨.mk default default []⟩

/-- Kinds of statements that are read but not executed. -/
inductive AbsentStatement where
  | annotated | import_ | importFrom | return_ | delete | pass | break_ | continue_
  | global | nonlocal | assert | raise
  | function | asyncFunction | class_ | if_ | while_ | for_ | asyncFor | with_ | asyncWith
  | try_ | tryStar | match_
  deriving DecidableEq, Repr

/-- The name under which an absent kind of statement is refused. -/
def AbsentStatement.name : AbsentStatement → String
  | annotated => "AnnAssign"
  | import_ => "Import"
  | importFrom => "ImportFrom"
  | return_ => "Return"
  | delete => "Delete"
  | pass => "Pass"
  | break_ => "Break"
  | continue_ => "Continue"
  | global => "Global"
  | nonlocal => "Nonlocal"
  | assert => "Assert"
  | raise => "Raise"
  | function => "FunctionDef"
  | asyncFunction => "AsyncFunctionDef"
  | class_ => "ClassDef"
  | if_ => "If"
  | while_ => "While"
  | for_ => "For"
  | asyncFor => "AsyncFor"
  | with_ => "With"
  | asyncWith => "AsyncWith"
  | try_ => "Try"
  | tryStar => "TryStar"
  | match_ => "Match"

/-- A statement. -/
inductive Statement where
  | expression (t : Term)
  | assign (targets : List Term) (value : Term)
  | augment (target : Term) (op : BinaryOp) (value : Term)
  | absent (kind : AbsentStatement)
  deriving Inhabited

/-- What a term is called in a fault. -/
def Term.describe : Term → String
  | .const .none => "None"
  | .const (.bool true) => "True"
  | .const (.bool false) => "False"
  | .const .ellipsis => "ellipsis"
  | .const _ => "literal"
  | .name _ => "name"
  | .unary .. | .binary .. | .boolean .. => "expression"
  | .compare .. => "comparison"
  | .conditional .. => "conditional expression"
  | .call .. => "function call"
  | .subscript .. => "subscript"
  | .slice .. => "slice"
  | .attribute .. => "attribute"
  | .joined _ | .formatted .. => "f-string expression"
  | .dict _ => "dict literal"
  | .list _ => "list"
  | .tuple _ => "tuple"
  | .set _ => "set display"
  | .starred _ => "starred"
  | .comprehension true .. => "generator expression"
  | .comprehension false .. => "list comprehension"
  | .dictComprehension .. => "dict comprehension"
  | .absent .lambda => "lambda"
  | .absent .setComprehension => "set comprehension"
  | .absent .named => "named expression"
  | .absent .yield | .absent .yieldFrom => "yield expression"
  | .absent .await => "await expression"

end Stencil.Expr
