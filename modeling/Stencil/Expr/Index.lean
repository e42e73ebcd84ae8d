import Stencil.Expr.Arith
/-!
# Stencil.Expr.Index -- elements and slices

Elements of sequences by position, counted from the end when the position is negative, entries of
dictionaries by key, and slices of sequences. A slice never fails on positions out of range: they
are moved to the nearest end.
-/

namespace Stencil.Expr

/-- The greatest position. -/
def indexLimit : Int := 9223372036854775807

/-- The element at a position counted from the start or, when negative, from the end. -/
def position? (size : Nat) (i : Int) : Option Nat :=
  let j := if i < 0 then i + size else i
  if 0 ≤ j && j < size then some j.toNat else none

/-! ## Slices -/

/-- A slice of a sequence of known size: the first position, the one not reached any more, the
step, and how many. -/
structure Span where
  start : Int
  stop : Int
  step : Int
  count : Nat

/-- The positions of a span. -/
def Span.positions (s : Span) : List Nat :=
  (List.range s.count).map fun (k : Nat) => (s.start + s.step * k).toNat

/-- A bound of a slice. -/
def sliceBound (v : Value) : Act (Option Int) := do
  match v with
  | .none => return none
  | _ =>
    match v.int? with
    | some i => return some (max (-indexLimit) (min indexLimit i))
    | none => typeError "slice indices must be integers or None or have an __index__ method"

/-- The span of a slice in a sequence of a size. -/
def span (size : Nat) (lower upper step : Value) : Act Span := do
  let step := (← sliceBound step).getD 1
  if step == 0 then valueError "slice step cannot be zero"
  let lower ← sliceBound lower
  let upper ← sliceBound upper
  let n : Int := size
  let least : Int := if step < 0 then -1 else 0
  let most : Int := if step < 0 then n - 1 else n
  let place (b : Int) : Int :=
    let b := if b < 0 then b + n else b
    if b < least then least else if b > most then most else b
  let start := match lower with
    | some b => place b
    | none => if step < 0 then n - 1 else 0
  let stop := match upper with
    | some b => place b
    | none => if step < 0 then -1 else n
  return ⟨start, stop, step, rangeLength start stop step⟩

/-- The elements of a list at the positions of a span. -/
def Span.select {α : Type} (s : Span) (xs : Array α) : List α :=
  if s.step == 1 then (xs.extract s.start.toNat (s.start.toNat + s.count)).toList
  else s.positions.filterMap fun i => xs[i]?

/-! ## Subscripts -/

/-- The fault of a subscript of the wrong type. -/
def badSubscript {α : Type} (what : String) (k : Value) : Act α :=
  typeError (what ++ " indices must be integers or slices, not " ++ k.typeName)

/-- The position a subscript stands for. -/
def subscript (k : Value) (wrong : Act Int) : Act Int := do
  match k.int? with
  | some i =>
    if i > indexLimit || i < -indexLimit - 1 then
      fault .badIndex "cannot fit 'int' into an index-sized integer"
    else return i
  | none => wrong

/-- An element of a sequence. -/
def elementAt {α : Type} (xs : Array α) (i : Int) (message : String) : Act α := do
  match position? xs.size i with
  | some j =>
    match xs[j]? with
    | some x => return x
    | none => fault .badIndex message
  | none => fault .badIndex message

/-- The element or slice that a subscript selects. -/
def getItem (container k : Value) : Act Value := do
  match container, k with
  | .str s, .slice a b c => do
    let cs := s.toList.toArray
    return .str (String.ofList ((← span cs.size a b c).select cs))
  | .str s, _ => do
    let i ← subscript k (typeError ("string indices must be integers, not '" ++ k.typeName ++ "'"))
    return .str (String.singleton (← elementAt s.toList.toArray i "string index out of range"))
  | .bytes s, .slice a b c => do
    let cs := s.toArray
    return .bytes ((← span cs.size a b c).select cs)
  | .bytes s, _ => do
    let i ← subscript k (badSubscript "byte" k)
    return .int (← elementAt s.toArray i "index out of range").toNat
  | .tuple items, .slice a b c => do
    let xs := items.toArray
    return .tuple ((← span xs.size a b c).select xs)
  | .tuple items, _ => do
    let i ← subscript k (badSubscript "tuple" k)
    elementAt items.toArray i "tuple index out of range"
  | .list r, .slice a b c => do
    let xs ← listItems r
    newList ((← span xs.size a b c).select xs).toArray
  | .list r, _ => do
    let i ← subscript k (badSubscript "list" k)
    elementAt (← listItems r) i "list index out of range"
  | .range start stop step, .slice a b c => do
    let s ← span (rangeLength start stop step) a b c
    return .range (start + step * s.start) (start + step * s.stop) (step * s.step)
  | .range start stop step, _ => do
    match k.int? with
    | some i =>
      match position? (rangeLength start stop step) i with
      | some j => return .int (start + step * j)
      | none => fault .badIndex "range object index out of range"
    | none => badSubscript "range" k
  | .dict r, _ => do
    match ← dictGet? r k with
    | some v => return v
    | none => keyMissing k
  | .type t, _ => typeError ("type '" ++ t.name ++ "' is not subscriptable")
  | _, _ => typeError ("'" ++ container.typeName ++ "' object is not subscriptable")

end Stencil.Expr
