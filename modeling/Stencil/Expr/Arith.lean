import Stencil.Expr.Percent
/-!
# Stencil.Expr.Arith -- operators

The operators of expressions on numbers, texts and collections. Operators that could build huge
results look at the sizes of their operands first and refuse. An operand of a type the operator
does not know is a fault that names both types.
-/

namespace Stencil.Expr

open Stencil.Number

/-! ## Operators -/

/-- The binary operators. -/
inductive BinaryOp where
  | add | sub | mul | matMul | div | floorDiv | mod | pow
  | shiftLeft | shiftRight | bitOr | bitXor | bitAnd
  deriving DecidableEq, Repr, Inhabited

/-- The sign of an operator in faults. -/
def BinaryOp.sign : BinaryOp → String
  | add => "+"
  | sub => "-"
  | mul => "*"
  | matMul => "@"
  | div => "/"
  | floorDiv => "//"
  | mod => "%"
  | pow => "** or pow()"
  | shiftLeft => "<<"
  | shiftRight => ">>"
  | bitOr => "|"
  | bitXor => "^"
  | bitAnd => "&"

/-- The unary operators. -/
inductive UnaryOp where
  | negate | plus | invert | not
  deriving DecidableEq, Repr, Inhabited

/-- The fault of operands that an operator does not know. -/
def unsupported {α : Type} (op : BinaryOp) (a b : Value) : Act α :=
  typeError ("unsupported operand type(s) for " ++ op.sign ++ ": '" ++ a.typeName ++ "' and '" ++
    b.typeName ++ "'")

/-- A fault of division by zero. -/
def zeroDivision {α : Type} (message : String) : Act α := fault .divisionByZero message

/-- An integer as a double, unless it is too large. -/
def toDouble (i : Int) : Act Float :=
  let x := ofInt i
  if isFinite x then return x else fault .overflow "int too large to convert to float"

/-- A real number as a double. -/
def Num.double : Num → Act Float
  | .int i => toDouble i
  | .float x => pure x
  | .complex re _ => pure re

/-- A number as a complex one. -/
def Num.parts : Num → Act (Float × Float)
  | .int i => return (← toDouble i, 0)
  | .float x => return (x, 0)
  | .complex re im => return (re, im)

/-- Whether a number is complex. -/
def Num.isComplex : Num → Bool
  | .complex .. => true
  | _ => false

/-! ## Numbers -/

/-- The quotient of two integers, rounded once. -/
def trueQuotient (a b : Int) : Act Value := do
  if b == 0 then zeroDivision "division by zero"
  let x := ofRatio ((a < 0) != (b < 0)) a.natAbs b.natAbs
  if isFinite x then return .float x
  fault .overflow "integer division result too large for a float"

/-- The fault of a result that is too large for a double. -/
def outOfRange {α : Type} : Act α := fault .overflow "(34, 'Numerical result out of range')"

/-- A complex power. -/
def complexPower (a b : Float × Float) : Act Value := do
  if b.1 == 0 && b.2 == 0 then return .complex 1 0
  -- A zero has no angle, so it is told apart from the other bases.
  if a.1 == 0 && a.2 == 0 then
    if b.2 != 0 || b.1 < 0 then
      zeroDivision "0.0 to a negative or complex power"
    return .complex 0 0
  let size := Float.sqrt (a.1 * a.1 + a.2 * a.2)
  let angle := Float.atan2 a.2 a.1
  let len := Float.pow size b.1
  let phase := angle * b.1
  let (len, phase) :=
    if b.2 != 0 then (len / Float.exp (angle * b.2), phase + b.2 * Float.log size)
    else (len, phase)
  return .complex (len * Float.cos phase) (len * Float.sin phase)

/-- A power of doubles. -/
def floatPower (a b : Float) : Act Value := do
  if a == 0 && b < 0 then zeroDivision "0.0 cannot be raised to a negative power"
  if a < 0 && isFinite a && isFinite b && b != b.floor then complexPower (a, 0) (b, 0)
  else
    let x := Float.pow a b
    if isFinite a && isFinite b && !isFinite x then outOfRange
    return .float x

/-- Complex division. -/
def complexQuotient (a b : Float × Float) : Act Value := do
  let (ar, ai) := a
  let (br, bi) := b
  if br == 0 && bi == 0 then zeroDivision "complex division by zero"
  -- Dividing by the larger part first keeps the numbers in between in range.
  if br.abs ≥ bi.abs then
    let r := bi / br
    let d := br + bi * r
    return .complex ((ar + ai * r) / d) ((ai - ar * r) / d)
  else
    let r := br / bi
    let d := br * r + bi
    return .complex ((ar * r + ai) / d) ((ai * r - ar) / d)

/-- Arithmetic of complex numbers. -/
def complexArith (op : BinaryOp) (x y : Num) (a b : Value) : Act Value := do
  let (ar, ai) ← x.parts
  let (br, bi) ← y.parts
  match op with
  | .add => return .complex (ar + br) (ai + bi)
  | .sub => return .complex (ar - br) (ai - bi)
  | .mul => return .complex (ar * br - ai * bi) (ar * bi + ai * br)
  | .div => complexQuotient (ar, ai) (br, bi)
  | .pow => complexPower (ar, ai) (br, bi)
  | _ => unsupported op a b

/-- Arithmetic of doubles. -/
def floatArith (op : BinaryOp) (x y : Float) (a b : Value) : Act Value := do
  match op with
  | .add => return .float (x + y)
  | .sub => return .float (x - y)
  | .mul => return .float (x * y)
  | .div => if y == 0 then zeroDivision "float division by zero" else return .float (x / y)
  | .floorDiv =>
    if y == 0 then zeroDivision "float floor division by zero"
    else return .float (floorDivMod x y).1
  | .mod => if y == 0 then zeroDivision "float modulo" else return .float (floorDivMod x y).2
  | .pow => floatPower x y
  | _ => unsupported op a b

/-- Bitwise and of two integers, each as an endless run of bits. -/
def intAnd (a b : Int) : Int :=
  match a, b with
  | .ofNat m, .ofNat n => .ofNat (m &&& n)
  | .ofNat m, .negSucc n => .ofNat (m - (m &&& n))
  | .negSucc m, .ofNat n => .ofNat (n - (n &&& m))
  | .negSucc m, .negSucc n => .negSucc (m ||| n)

/-- Bitwise or of two integers. -/
def intOr (a b : Int) : Int := -1 - intAnd (-1 - a) (-1 - b)

/-- Bitwise exclusive or of two integers. -/
def intXor (a b : Int) : Int := intOr a b - intAnd a b

/-- Arithmetic of integers. -/
def intArith (op : BinaryOp) (x y : Int) : Act Value := do
  match op with
  | .add => return .int (x + y)
  | .sub => return .int (x - y)
  | .mul => return .int (x * y)
  | .matMul => unsupported op (.int x) (.int y)
  | .div => trueQuotient x y
  | .floorDiv =>
    if y == 0 then zeroDivision "integer division or modulo by zero" else return .int (x.fdiv y)
  | .mod => if y == 0 then zeroDivision "integer modulo by zero" else return .int (x.fmod y)
  -- A power with a negative exponent is no integer.
  | .pow =>
    if y ≥ 0 then return .int (Int.pow x y.toNat) else floatPower (← toDouble x) (← toDouble y)
  | .shiftLeft =>
    if y < 0 then valueError "negative shift count" else return .int (x * Nat.pow 2 y.toNat)
  | .shiftRight =>
    if y < 0 then valueError "negative shift count" else return .int (x.fdiv (Nat.pow 2 y.toNat))
  | .bitOr => return .int (intOr x y)
  | .bitXor => return .int (intXor x y)
  | .bitAnd => return .int (intAnd x y)

/-- Arithmetic of numbers of any type. -/
def numArith (op : BinaryOp) (x y : Num) (a b : Value) : Act Value := do
  match x, y with
  | .int i, .int j =>
    match op, a, b with
    -- Only these operators keep truth values what they are.
    | .bitOr, .bool p, .bool q => return .bool (p || q)
    | .bitXor, .bool p, .bool q => return .bool (p != q)
    | .bitAnd, .bool p, .bool q => return .bool (p && q)
    | .matMul, _, _ => unsupported op a b
    | _, _, _ => intArith op i j
  | _, _ =>
    match op with
    | .matMul | .shiftLeft | .shiftRight | .bitOr | .bitXor | .bitAnd => unsupported op a b
    | _ =>
      if x.isComplex || y.isComplex then complexArith op x y a b
      else floatArith op (← x.double) (← y.double) a b

/-! ## Sequences -/

/-- Whether a value is a text, bytes, a tuple or a list. -/
def Value.isSequence : Value → Bool
  | .str _ | .bytes _ | .tuple _ | .list _ => true
  | _ => false

/-- A list repeated. -/
def repeatList {α : Type} (xs : List α) : Nat → List α
  | 0 => []
  | n + 1 => xs ++ repeatList xs n

/-- A sequence repeated. -/
def repeatSequence (v : Value) (count : Int) : Act Value := do
  if count > 9223372036854775807 || count < -9223372036854775808 then
    fault .overflow "cannot fit 'int' into an index-sized integer"
  let n := count.toNat
  match v with
  | .str s => return .str (if s.isEmpty then "" else String.ofList (repeatList s.toList n))
  | .bytes b => return .bytes (if b.isEmpty then [] else repeatList b n)
  | .tuple items => return .tuple (if items.isEmpty then [] else repeatList items n)
  | .list r =>
    let items ← listItems r
    newList (if items.isEmpty then #[] else (repeatList items.toList n).toArray)
  | _ => return v

/-- The product of two values that are not both numbers. -/
def product (a b : Value) : Act Value := do
  let wrong (v : Value) : Act Value :=
    typeError ("can't multiply sequence by non-int of type '" ++ v.typeName ++ "'")
  if a.isSequence then
    match b.int? with
    | some n => repeatSequence a n
    | none => wrong b
  else if b.isSequence then
    match a.int? with
    | some n => repeatSequence b n
    | none => wrong a
  else unsupported .mul a b

/-- The sum of two values that are not both numbers. -/
def concatenate (a b : Value) : Act Value := do
  let wrong : Act Value :=
    typeError ("can only concatenate " ++ a.typeName ++ " (not \"" ++ b.typeName ++ "\") to " ++
      a.typeName)
  match a, b with
  | .str s, .str t => return .str (s ++ t)
  | .bytes s, .bytes t => return .bytes (s ++ t)
  | .tuple s, .tuple t => return .tuple (s ++ t)
  | .list s, .list t => newList ((← listItems s) ++ (← listItems t))
  | .str _, _ | .tuple _, _ | .list _, _ => wrong
  | .bytes _, _ => typeError ("can't concat " ++ b.typeName ++ " to bytes")
  | _, _ => unsupported .add a b

/-! ## Sets -/

/-- Whether a value is a view that set operators accept. -/
def Value.isSetView : Value → Bool
  | .view .values _ => false
  | .view .. => true
  | _ => false

/-- A new set with what the first operand of an operator holds. From a view of keys it is made as
from the dictionary. -/
def operandSet (v : Value) : Act Ref := do
  match v with
  | .view .keys d => setOf (.dict d)
  | _ => setOf v

/-- A new set with those values of a collection that another one holds. -/
def valuesAmong (few many : Value) : Act Ref := do
  let made ← alloc (.set {})
  withEach few fun _ x => do
    if ← holds many x then
      let m ← memberFor x
      modifySet made (·.add m)
  return made

/-- A new set with what a view and another operand both hold. The larger one of two views is looked
into, and so is a set that is larger than the view. -/
def commonWithView (view v : Value) : Act Ref := do
  let size := (← size? view).getD 0
  match v with
  | .set r => do
    if size ≤ (← setTable r).used then commonSet r view else valuesAmong v view
  | _ => do
    if v.isSetView && (← size? v).getD 0 > size then valuesAmong view v else valuesAmong v view

/-- A new set with the items that only one of two dictionaries has. -/
def exclusiveItems (d e : Ref) : Act Ref := do
  let rest ← alloc (.dict (← dictTable d).copied)
  let made ← alloc (.set {})
  (← dictEntries e).toList.forM fun item => do
    let shared ← match (← dictTable rest).entryFor? item.key with
      | some own => if same own.value item.value then pure true else equal own.value item.value
      | none => pure false
    if shared then modifyDict rest (·.drop item.key)
    else do
      let m ← memberFor (.tuple [item.shown, item.value])
      modifySet made (·.add m)
  fillSet made (.view .items rest)
  return made

/-- The operators on two sets. -/
def setsArith (op : BinaryOp) (r s : Ref) : Act Value := do
  match op with
  | .bitOr => do
    let made ← setOf (.set r)
    if r != s then fillSet made (.set s)
    return .set made
  | .bitAnd => return .set (← commonSet r (.set s))
  | .bitXor => do
    let made ← setOf (.set s)
    toggleSet made (.set r)
    return .set made
  | .sub => return .set (← differenceSet r (.set s))
  | _ => unsupported op (.set r) (.set s)

/-- The operators on two values one of which is a view. -/
def viewArith (op : BinaryOp) (a b : Value) : Act Value := do
  match op, a, b with
  | .bitOr, _, _ => do
    let made ← operandSet a
    fillSet made b
    return .set made
  | .bitAnd, _, _ =>
    return .set (← if a.isSetView then commonWithView a b else commonWithView b a)
  | .bitXor, .view .items d, .view .items e => return .set (← exclusiveItems d e)
  | .bitXor, _, _ => do
    let made ← operandSet a
    toggleSet made b
    return .set made
  | .sub, _, _ => do
    let made ← operandSet a
    drainSet made b
    return .set made
  | _, _, _ => unsupported op a b

/-- The operators on sets, views and dictionaries. -/
def setArith (op : BinaryOp) (a b : Value) : Act Value := do
  match op, a, b with
  | .bitOr, .dict r, .dict s => newDict ((← dictTable r).copied.merge (← dictTable s))
  | _, .set r, .set s => setsArith op r s
  | _, _, _ => if a.isSetView || b.isSetView then viewArith op a b else unsupported op a b

/-! ## All operands -/

/-- Apply an operator without looking at sizes. -/
def applyPlain (op : BinaryOp) (a b : Value) : Act Value := do
  match a.num?, b.num? with
  | some x, some y => numArith op x y a b
  | _, _ =>
    match op, a with
    | .add, _ => concatenate a b
    | .mul, _ => product a b
    | .mod, .str s => return .str (← fillPlaceholders s b)
    | .bitOr, _ | .bitAnd, _ | .bitXor, _ | .sub, _ => setArith op a b
    | _, _ => unsupported op a b

/-! ## Limits -/

/-- The greatest size of a text or collection built by an operator. -/
def sizeLimit : Nat := 100000

/-- The greatest magnitude of the operands of a power. -/
def powerLimit : Nat := 4000000

/-- The greatest distance of a shift. -/
def shiftLimit : Nat := 10000

/-- The greatest magnitude that is shifted: that of the greatest double. -/
def shiftedLimit : Nat := (Nat.pow 2 53 - 1) * Nat.pow 2 971

/-- A refusal of the evaluator itself. -/
def refuse {α : Type} (message : String) : Act α := fault .refusal message

/-- The magnitude of a number. -/
def magnitude (v : Value) : Act Value := do
  match v.num? with
  | some (.int i) => return .int i.natAbs
  | some (.float x) => return .float x.abs
  | some (.complex re im) => return .float (Float.sqrt (re * re + im * im))
  | none => typeError ("bad operand type for abs(): '" ++ v.typeName ++ "'")

/-- Whether the magnitude of a value is above a limit. -/
def exceeds (v : Value) (limit : Nat) : Act Bool := do
  compareValues .gt (← magnitude v) (.int limit)

/-- Whether a value has a size that can be asked for; the types themselves only seem to. -/
def seemsSized (v : Value) : Act Bool := do
  match v with
  | .type t =>
    match t with
    | .str | .bytes | .tuple | .list | .dict | .set | .range => return true
    | _ => return false
  | _ => return (← size? v).isSome

/-- The size of a value, or a fault. -/
def sizeOf (v : Value) : Act Nat := do
  match ← size? v with
  | some n => return n
  | none => typeError ("object of type '" ++ v.typeName ++ "' has no len()")

/-- Refuse operands of a power or shift that are too large. -/
def refuseLarge {α : Type} (sign : String) (a b : Value) : Act α := do
  let x ← plainText a
  let y ← plainText b
  refuse ("Sorry! I don't want to evaluate " ++ x ++ " " ++ sign ++ " " ++ y)

/-- Apply an operator, refusing results that would be too large. -/
def applyBinary (op : BinaryOp) (a b : Value) : Act Value := do
  match op with
  | .pow =>
    if ← exceeds a powerLimit then refuseLarge "**" a b
    if ← exceeds b powerLimit then refuseLarge "**" a b
  | .shiftLeft | .shiftRight =>
    let sign := if op == .shiftLeft then "<<" else ">>"
    if ← exceeds b shiftLimit then refuseLarge sign a b
    if ← exceeds a shiftedLimit then refuseLarge sign a b
  | .mul =>
    let long (x y : Value) : Act Unit := do
      if ← seemsSized x then
        let n ← sizeOf x
        let total ← applyPlain .mul y (.int n)
        if ← compareValues .gt total (.int sizeLimit) then
          refuse "Sorry, I will not evaluate something that long."
    long a b
    long b a
  | .add =>
    if ← seemsSized a then
      if ← seemsSized b then
        let m ← sizeOf a
        let n ← sizeOf b
        if m + n > sizeLimit then
          refuse "Sorry, adding those two together would make something too long."
  | _ => pure ()
  applyPlain op a b

/-- Apply a unary operator. -/
def applyUnary (op : UnaryOp) (v : Value) : Act Value := do
  let wrong (name : String) : Act Value :=
    typeError ("bad operand type for unary " ++ name ++ ": '" ++ v.typeName ++ "'")
  match op, v.num? with
  | .not, _ => return .bool !(← truthy v)
  | .negate, some (.int i) => return .int (-i)
  | .negate, some (.float x) => return .float (-x)
  | .negate, some (.complex re im) => return .complex (-re) (-im)
  | .negate, none => wrong "-"
  | .plus, some (.int i) => return .int i
  | .plus, some _ => return v
  | .plus, none => wrong "+"
  | .invert, some (.int i) => return .int (-1 - i)
  | .invert, _ => wrong "~"

end Stencil.Expr
