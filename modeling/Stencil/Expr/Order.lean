import Stencil.Expr.Machine
import Stencil.Number.Binary64
/-!
# Stencil.Expr.Order -- truth, equality, order and keys

Numbers are equal and ordered by value across their types, texts by code point, tuples and lists
item by item; dictionaries and sets are equal when they hold equal things. Values that cannot be
ordered are a fault that names both types. Since lists can hold themselves, comparison goes down a
bounded number of levels.
-/

namespace Stencil.Expr

open Stencil.Number

/-- How many levels of nested values an action looks into. -/
def depthLimit : Nat := 900

/-! ## Keys -/

/-- The number of elements of a range. -/
def rangeLength (start stop step : Int) : Nat :=
  if step > 0 then ((stop - start + step - 1) / step).toNat
  else if step < 0 then ((start - stop - step - 1) / (-step)).toNat
  else 0

/-- The key of a double: a whole number when it is one. -/
def floatKey (x : Float) : Key :=
  match integer? x with
  | some i => .whole i
  | none => .fraction x.toBits

mutual

/-- The key of a value, or the type that has none. -/
def keyOf : Value → Except TypeTag Key
  | .none => .ok .none
  | .ellipsis => .ok .ellipsis
  | .bool b => .ok (.whole (if b then 1 else 0))
  | .int i => .ok (.whole i)
  | .float x => .ok (floatKey x)
  | .complex re im =>
    if im == 0 then .ok (floatKey re) else .ok (.complex re.toBits im.toBits)
  | .str s => .ok (.str s)
  | .bytes b => .ok (.bytes b)
  | .tuple items => do return .tuple (← keysOf items)
  | .range start stop step =>
    match rangeLength start stop step with
    | 0 => .ok .emptyRange
    | 1 => .ok (.oneRange start)
    | n => .ok (.longRange start step n)
  | .type t => .ok (.type t)
  | .function f => .ok (.function f)
  | .bound self name => do return .bound (← keyOf self) name
  | .unbound t name => .ok (.unbound t name)
  | .view .values r => .ok (.cell r)
  | .iterator _ r => .ok (.cell r)
  | v@(.slice ..) | v@(.list _) | v@(.dict _) | v@(.set _) | v@(.view ..) => .error v.tag

/-- The keys of several values. -/
def keysOf : List Value → Except TypeTag (List Key)
  | [] => .ok []
  | v :: vs => do
    let k ← keyOf v
    return k :: (← keysOf vs)

end

/-- The key of a value that is used as one. -/
def keyFor (v : Value) : Act Key :=
  match keyOf v with
  | .ok k => pure k
  | .error t => typeError ("unhashable type: '" ++ t.name ++ "'")

/-! ## Size and truth -/

/-- The number of elements of a value that has one. -/
def size? : Value → Act (Option Nat)
  | .str s => return some s.length
  | .bytes b => return some b.length
  | .tuple items => return some items.length
  | .range start stop step => return some (rangeLength start stop step)
  | .list r => return some (← listItems r).size
  | .dict r | .view _ r => return some (← dictEntries r).size
  | .set r => return some (← setMembers r).size
  | _ => return none

/-- Whether a value counts as true: numbers other than zero, and everything that is not empty. -/
def truthy : Value → Act Bool
  | .none => return false
  | .bool b => return b
  | .int i => return i != 0
  | .float x => return x != 0
  | .complex re im => return re != 0 || im != 0
  | .str s => return !s.isEmpty
  | v => do return (← size? v) != some 0

/-! ## Numbers -/

/-- A value seen as a number. -/
inductive Num where
  | int (i : Int)
  | float (x : Float)
  | complex (re im : Float)

/-- The number a value is; truth values count as one and zero. -/
def Value.num? : Value → Option Num
  | .bool b => some (.int (if b then 1 else 0))
  | .int i => some (.int i)
  | .float x => some (.float x)
  | .complex re im => some (.complex re im)
  | _ => Option.none

/-- The integer a value is; truth values count as one and zero. -/
def Value.int? : Value → Option Int
  | .bool b => some (if b then 1 else 0)
  | .int i => some i
  | _ => Option.none

/-- Equality of numbers by value. -/
def Num.eq : Num → Num → Bool
  | .int a, .int b => a == b
  | .int a, .float b | .float b, .int a => compareInt a b == some .eq
  | .float a, .float b => a == b
  | .complex a b, .complex c d => a == c && b == d
  | .complex a b, .float x | .float x, .complex a b => b == 0 && a == x
  | .complex a b, .int i | .int i, .complex a b => b == 0 && compareInt i a == some .eq

/-- Order of numbers by value: none when a NaN or a complex number takes part. -/
def Num.order : Num → Num → Option Ordering
  | .int a, .int b => some (compare a b)
  | .int a, .float b => compareInt a b
  | .float a, .int b => (compareInt b a).map Ordering.swap
  | .float a, .float b =>
    if a < b then some .lt else if a == b then some .eq else if a > b then some .gt else none
  | _, _ => none

/-! ## Equality -/

/-- The fault of a comparison that goes too deep. -/
def tooDeep {α : Type} : Act α :=
  fault .recursion "maximum recursion depth exceeded in comparison"

/-- Whether two values are the same thing, not only equal. -/
def same : Value → Value → Bool
  | .none, .none | .ellipsis, .ellipsis => true
  | .bool a, .bool b => a == b
  -- Small integers are kept once each; larger ones are new things wherever they come up.
  | .int a, .int b => a == b && -5 ≤ a && a ≤ 256
  | .str a, .str b => a == b
  | .bytes a, .bytes b => a.isEmpty && b.isEmpty
  | .tuple a, .tuple b => a.isEmpty && b.isEmpty
  | .type a, .type b => a == b
  | .function a, .function b => a == b
  | .unbound s a, .unbound t b => s == t && a == b
  | .list a, .list b | .dict a, .dict b | .set a, .set b | .iterator _ a, .iterator _ b => a == b
  | _, _ => false

mutual

/-- Whether two values are equal, looking at most `fuel` levels deep. -/
def equalWithin : Nat → Value → Value → Act Bool
  | 0, _, _ => tooDeep
  | fuel + 1, a, b =>
    match a.num?, b.num? with
    | some x, some y => return x.eq y
    | _, _ =>
      match a, b with
      | .str s, .str t => return s == t
      | .bytes s, .bytes t => return s == t
      | .tuple s, .tuple t =>
        if s.length != t.length then return false else equalAllWithin fuel s t
      | .list s, .list t => do
        -- A list equals itself, even one that holds what equals nothing.
        if s == t then return true
        let xs ← listItems s
        let ys ← listItems t
        if xs.size != ys.size then return false
        equalAllWithin fuel xs.toList ys.toList
      | .dict s, .dict t => do
        if s == t then return true
        let xs ← dictEntries s
        let ys ← dictEntries t
        if xs.size != ys.size then return false
        equalEntriesWithin fuel xs.toList ys
      | .slice a b c, .slice a' b' c' => equalAllWithin fuel [a, b, c] [a', b', c']
      | .set s, .set t => do
        let xs ← setMembers s
        let ys ← setMembers t
        return xs.size == ys.size && xs.all fun x => ys.any (·.key == x.key)
      | .view .keys s, .view .keys t => do
        let xs ← dictEntries s
        let ys ← dictEntries t
        return xs.size == ys.size && xs.all fun x => ys.any (·.key == x.key)
      | .view .keys s, .set t | .set t, .view .keys s => do
        let xs ← dictEntries s
        let ys ← setMembers t
        return xs.size == ys.size && xs.all fun x => ys.any (·.key == x.key)
      | _, _ =>
        match keyOf a, keyOf b with
        | .ok x, .ok y => return x == y
        | _, _ => return false

/-- Whether two sequences of the same length are equal item by item. -/
def equalAllWithin : Nat → List Value → List Value → Act Bool
  | 0, _, _ => tooDeep
  | _ + 1, [], _ => return true
  | _ + 1, _, [] => return true
  | fuel + 1, x :: xs, y :: ys => do
    if ← equalWithin fuel x y then equalAllWithin (fuel + 1) xs ys else return false

/-- Whether every entry has an equal one among others. -/
def equalEntriesWithin : Nat → List Entry → Array Entry → Act Bool
  | 0, _, _ => tooDeep
  | _ + 1, [], _ => return true
  | fuel + 1, x :: xs, ys => do
    match ys.find? (·.key == x.key) with
    | some y =>
      if ← equalWithin fuel x.value y.value then equalEntriesWithin (fuel + 1) xs ys
      else return false
    | none => return false

end

/-- Whether two values are equal. -/
def equal (a b : Value) : Act Bool := equalWithin depthLimit a b

/-- Whether a value is among others, by identity or equality. -/
def memberOf (v : Value) : List Value → Act Bool
  | [] => return false
  | x :: xs => do
    if same v x then return true
    if ← equal x v then return true
    memberOf v xs

/-! ## Order -/

/-- The four order comparisons. -/
inductive Comparison where
  | lt | le | gt | ge
  deriving DecidableEq, Repr

/-- The sign of a comparison. -/
def Comparison.sign : Comparison → String
  | lt => "<"
  | le => "<="
  | gt => ">"
  | ge => ">="

/-- Whether a comparison accepts an ordering. -/
def Comparison.accepts : Comparison → Ordering → Bool
  | lt, .lt => true
  | le, .lt | le, .eq => true
  | gt, .gt => true
  | ge, .gt | ge, .eq => true
  | _, _ => false

/-- The fault of two values that have no order. -/
def unordered {α : Type} (op : Comparison) (a b : Value) : Act α :=
  typeError ("'" ++ op.sign ++ "' not supported between instances of '" ++ a.typeName ++
    "' and '" ++ b.typeName ++ "'")

/-- Order of texts by code point. -/
def orderText (a b : String) : Ordering := if a < b then .lt else if a == b then .eq else .gt

/-- Order of bytes. -/
def orderBytes (a b : List UInt8) : Ordering :=
  orderText (String.ofList (a.map fun x => Char.ofNat x.toNat))
    (String.ofList (b.map fun x => Char.ofNat x.toNat))

/-- Whether one set of keys lies inside another. -/
def subset (xs ys : Array Key) : Bool := xs.all fun x => ys.any (· == x)

/-- A comparison of sets of keys by inclusion. -/
def Comparison.sets (op : Comparison) (xs ys : Array Key) : Bool :=
  match op with
  | .le => subset xs ys
  | .lt => subset xs ys && xs.size < ys.size
  | .ge => subset ys xs
  | .gt => subset ys xs && ys.size < xs.size

/-- The keys of a value that is compared as a set. -/
def setKeys? : Value → Act (Option (Array Key))
  | .set r => return some ((← setMembers r).map (·.key))
  | .view .keys r => return some ((← dictEntries r).map (·.key))
  | _ => return none

mutual

/-- Compare two values in order, looking at most `fuel` levels deep. -/
def compareWithin : Nat → Comparison → Value → Value → Act Bool
  | 0, _, _, _ => tooDeep
  | fuel + 1, op, a, b =>
    match a.num?, b.num? with
    | some (.complex ..), some _ | some _, some (.complex ..) => unordered op a b
    | some x, some y => return ((x.order y).map op.accepts).getD false
    | _, _ =>
      match a, b with
      | .str s, .str t => return op.accepts (orderText s t)
      | .bytes s, .bytes t => return op.accepts (orderBytes s t)
      | .tuple s, .tuple t => compareAllWithin fuel op s t
      | .list s, .list t => do
        compareAllWithin fuel op (← listItems s).toList (← listItems t).toList
      | _, _ => do
        match ← setKeys? a, ← setKeys? b with
        | some x, some y => return op.sets x y
        | _, _ => unordered op a b

/-- Compare two sequences: the first items that differ decide, then the lengths. -/
def compareAllWithin : Nat → Comparison → List Value → List Value → Act Bool
  | 0, _, _, _ => tooDeep
  | fuel + 1, op, x :: xs, y :: ys => do
    if ← (if same x y then pure true else equalWithin fuel x y) then
      compareAllWithin (fuel + 1) op xs ys
    else compareWithin fuel op x y
  | _ + 1, op, [], [] => return op.accepts .eq
  | _ + 1, op, [], _ :: _ => return op.accepts .lt
  | _ + 1, op, _ :: _, [] => return op.accepts .gt

end

/-- Compare two values in order. -/
def compareValues (op : Comparison) (a b : Value) : Act Bool := compareWithin depthLimit op a b

end Stencil.Expr
