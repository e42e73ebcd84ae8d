import Stencil.Expr.Index
/-!
# Stencil.Expr.Argument -- the arguments of a call

Arguments are given by position or by name. A callable says what it takes by one of a few shapes:
nothing, exactly one value, between so many and so many values by position, or a list of names of
which the first ones may also be given by position. Each shape has its own wording for a call that
does not fit.
-/

namespace Stencil.Expr

/-- The arguments of a call. -/
structure Args where
  positional : List Value
  named : List (String × Value) := []
  deriving Inhabited

/-- "1 argument", "2 arguments". -/
def counted (n : Nat) : String := toString n ++ (if n == 1 then " argument" else " arguments")

/-- Refuse arguments by name. -/
def Args.onlyPositional (a : Args) (callable : String) : Act Unit :=
  if a.named.isEmpty then pure ()
  else typeError (callable ++ "() takes no keyword arguments")

/-- Take no arguments. -/
def Args.nothing (a : Args) (callable : String) : Act Unit := do
  a.onlyPositional callable
  if !a.positional.isEmpty then
    typeError (callable ++ "() takes no arguments (" ++ toString a.positional.length ++ " given)")

/-- Take exactly one argument by position. -/
def Args.one (a : Args) (callable : String) : Act Value := do
  a.onlyPositional callable
  match a.positional with
  | [v] => return v
  | vs =>
    typeError (callable ++ "() takes exactly one argument (" ++ toString vs.length ++ " given)")

/-- Take between `least` and `most` arguments by position. -/
def Args.between (a : Args) (owner name : String) (least most : Nat) : Act (List Value) := do
  a.onlyPositional (owner ++ name)
  let n := a.positional.length
  if n < least then
    let bound := if least == most then "" else "at least "
    typeError (name ++ " expected " ++ bound ++ counted least ++ ", got " ++ toString n)
  if n > most then
    let bound := if least == most then "" else "at most "
    typeError (name ++ " expected " ++ bound ++ counted most ++ ", got " ++ toString n)
  return a.positional

/-- Take between `least` and `most` arguments by position, in the older wording. -/
def Args.within (a : Args) (owner name : String) (least most : Nat) : Act (List Value) := do
  a.onlyPositional (owner ++ name)
  let n := a.positional.length
  let given := " (" ++ toString n ++ " given)"
  if n < least then
    typeError (name ++ "() takes at least " ++ counted least ++ given)
  if n > most then
    typeError (name ++ "() takes at most " ++ counted most ++ given)
  return a.positional

/-- Fill the slots of named arguments, the first of which may also be given by position. -/
def Args.slots (a : Args) (callable : String) (names : List String) (byPosition least : Nat) :
    Act (List (Option Value)) := do
  let total := a.positional.length + a.named.length
  if total > names.length then
    let kind := if a.named.isEmpty then "" else if a.positional.isEmpty then "keyword " else ""
    typeError (callable ++ "() takes at most " ++ toString names.length ++ " " ++ kind ++
      (if names.length == 1 then "argument" else "arguments") ++ " (" ++ toString total ++ " given)")
  if a.positional.length > byPosition then
    if byPosition == 0 then typeError (callable ++ "() takes no positional arguments")
    typeError (callable ++ "() takes at most " ++ toString byPosition ++ " positional " ++
      (if byPosition == 1 then "argument" else "arguments") ++ " (" ++
      toString a.positional.length ++ " given)")
  for (name, _) in a.named do
    if !names.contains name then
      typeError ("'" ++ name ++ "' is an invalid keyword argument for " ++ callable ++ "()")
  for (name, i) in names.zipIdx do
    if i < a.positional.length then
      if a.named.any (·.1 == name) then
        typeError ("argument for " ++ callable ++ "() given by name ('" ++ name ++
          "') and position (" ++ toString (i + 1) ++ ")")
    else if i < least && !(a.named.any (·.1 == name)) then
      typeError (callable ++ "() missing required argument '" ++ name ++ "' (pos " ++
        toString (i + 1) ++ ")")
  return names.zipIdx.map fun (name, i) =>
    match a.positional[i]? with
    | some v => some v
    | none => (a.named.find? (·.1 == name)).map (·.2)

/-! ## Values of arguments -/

/-- An integer. -/
def indexArg (v : Value) : Act Int := do
  match v.int? with
  | some i => return i
  | none => typeError ("'" ++ v.typeName ++ "' object cannot be interpreted as an integer")

/-- An integer that is used as a size. -/
def sizeArg (v : Value) : Act Int := do
  let i ← indexArg v
  if i > indexLimit || i < -indexLimit - 1 then
    fault .overflow "Python int too large to convert to C ssize_t"
  return i

/-- The bounds of a search in a sequence of a size: where it starts and where it stops. -/
def searchBounds (size : Nat) (lower upper : Option Value) : Act (Int × Int) := do
  let lo ← sliceBound (lower.getD .none)
  let hi ← sliceBound (upper.getD .none)
  let n : Int := size
  let hi := match hi with
    | none => n
    | some h => if h > n then n else if h < 0 then max 0 (h + n) else h
  let lo := match lo with
    | none => 0
    | some l => if l < 0 then max 0 (l + n) else l
  return (lo, hi)

end Stencil.Expr
