import Stencil.Expr.Order
import Stencil.Number.Integer
import Stencil.Number.Shortest
import Stencil.Text.Quoted
/-!
# Stencil.Expr.Show -- the text of a value

A value has a plain text and a quoted one; they differ for texts alone, which stand for themselves
in the plain form and are quoted inside lists and other collections. A collection that holds itself
is abbreviated where it comes up again.
-/

namespace Stencil.Expr

open Stencil.Number

/-- The text of a part of a complex number: as for a double, but whole numbers have no point. -/
def partText (x : Float) : String :=
  let s := (floatText x).toList
  String.ofList ((Text.afterPrefix? ['0', '.'] s.reverse).elim s List.reverse)

/-- The text of a complex number. -/
def complexText (re im : Float) : String :=
  if re == 0 && !isNegative re then partText im ++ "j"
  else
    let sign := if isNegative im || !(im == im) then "" else "+"
    "(" ++ partText re ++ (if im == im then sign else "+") ++ partText im ++ "j)"

/-- Texts with a separator between them. -/
def joinTexts (sep : String) : List String → String
  | [] => ""
  | s :: rest => rest.foldl (fun acc t => acc ++ sep ++ t) s

/-- The quoted form of a text. -/
def quotedText (s : String) : String := String.ofList (Text.quoted s.toList)

mutual

/-- The quoted form of a value, looking at most `fuel` levels deep; `open_` lists the collections
the value stands in. -/
def showWithin : Nat → List Ref → Value → Act String
  | 0, _, _ =>
    fault .recursion "maximum recursion depth exceeded while getting the repr of an object"
  | fuel + 1, open_, v =>
    match v with
    | .none => return "None"
    | .ellipsis => return "Ellipsis"
    | .bool b => return if b then "True" else "False"
    | .int i => ofExcept (integerText i)
    | .float x => return floatText x
    | .complex re im => return complexText re im
    | .str s => return quotedText s
    | .bytes b => return String.ofList (Text.quotedBytes b)
    | .tuple [x] => return "(" ++ (← showWithin fuel open_ x) ++ ",)"
    | .tuple items => return "(" ++ joinTexts ", " (← showAllWithin fuel open_ items) ++ ")"
    | .range start stop step => do
      let a ← ofExcept (integerText start)
      let b ← ofExcept (integerText stop)
      if step == 1 then return "range(" ++ a ++ ", " ++ b ++ ")"
      return "range(" ++ a ++ ", " ++ b ++ ", " ++ (← ofExcept (integerText step)) ++ ")"
    | .slice a b c =>
      return "slice(" ++ joinTexts ", " (← showAllWithin fuel open_ [a, b, c]) ++ ")"
    | .type t => return "<class '" ++ t.name ++ "'>"
    | .function f => return "<built-in function " ++ f.name ++ ">"
    | .bound self name =>
      return "<built-in method " ++ name ++ " of " ++ self.typeName ++ " object>"
    | .unbound t name => return "<method '" ++ name ++ "' of '" ++ t.name ++ "' objects>"
    | .list r => do
      if open_.contains r then return "[...]"
      let items ← listItems r
      return "[" ++ joinTexts ", " (← showAllWithin fuel (r :: open_) items.toList) ++ "]"
    | .dict r => do
      if open_.contains r then return "\x7b...\x7d"
      let entries ← dictEntries r
      let parts ← showEntriesWithin fuel (r :: open_) entries.toList
      return "\x7b" ++ joinTexts ", " parts ++ "\x7d"
    | .set r => do
      if open_.contains r then return "set(...)"
      let members ← setMembers r
      if members.isEmpty then return "set()"
      let parts ← showAllWithin fuel (r :: open_) (members.toList.map (·.shown))
      return "\x7b" ++ joinTexts ", " parts ++ "\x7d"
    | .view kind r => do
      if open_.contains r then return "..."
      let entries ← dictEntries r
      let values := entries.toList.map fun e =>
        match kind with
        | .keys => e.shown
        | .values => e.value
        | .items => .tuple [e.shown, e.value]
      let parts ← showAllWithin fuel (r :: open_) values
      return v.typeName ++ "([" ++ joinTexts ", " parts ++ "])"
    | .iterator kind _ => return "<" ++ kind.name ++ " object>"

/-- The quoted forms of several values. -/
def showAllWithin : Nat → List Ref → List Value → Act (List String)
  | 0, _, _ =>
    fault .recursion "maximum recursion depth exceeded while getting the repr of an object"
  | _ + 1, _, [] => return []
  | fuel + 1, open_, v :: vs => do
    let s ← showWithin fuel open_ v
    return s :: (← showAllWithin (fuel + 1) open_ vs)

/-- The forms of the entries of a dictionary. -/
def showEntriesWithin : Nat → List Ref → List Entry → Act (List String)
  | 0, _, _ =>
    fault .recursion "maximum recursion depth exceeded while getting the repr of an object"
  | _ + 1, _, [] => return []
  | fuel + 1, open_, e :: es => do
    let k ← showWithin fuel open_ e.shown
    let v ← showWithin fuel open_ e.value
    return (k ++ ": " ++ v) :: (← showEntriesWithin (fuel + 1) open_ es)

end

/-- The quoted form of a value. -/
def quotedValue (v : Value) : Act String := showWithin depthLimit [] v

/-- The plain text of a value. -/
def plainText : Value → Act String
  | .str s => return s
  | v => quotedValue v

/-- The text a value leaves in the output: nothing for the absent value, else its plain text. -/
def asText : Value → Act String
  | .none => return ""
  | v => plainText v

end Stencil.Expr
