import Stencil.Expr.Argument
import Stencil.Number.Reading
/-!
# Stencil.Expr.Method.Number -- attributes and methods of numbers

Integers, truth values, doubles and complex numbers have a few attributes that are plain values, and
methods that take them apart.
-/

namespace Stencil.Expr

open Stencil.Number

/-- The names of the methods of integers. -/
def intMethods : List String :=
  ["as_integer_ratio", "bit_count", "bit_length", "conjugate", "from_bytes", "to_bytes"]

/-- The names of the methods of doubles. -/
def floatMethods : List String :=
  ["as_integer_ratio", "conjugate", "fromhex", "hex", "is_integer"]

/-- An attribute of a number that is a plain value. -/
def numberAttribute? (v : Value) (name : String) : Option Value :=
  match v.num?, name with
  | some (.int i), "real" | some (.int i), "numerator" => some (.int i)
  | some (.int _), "imag" => some (.int 0)
  | some (.int _), "denominator" => some (.int 1)
  | some (.float x), "real" => some (.float x)
  | some (.float _), "imag" => some (.float 0)
  | some (.complex re _), "real" => some (.float re)
  | some (.complex _ im), "imag" => some (.float im)
  | _, _ => none

/-- The number of binary digits of a magnitude. -/
def bitLength (n : Nat) : Nat := if n == 0 then 0 else Nat.log2 n + 1

/-- The number of ones among the binary digits. -/
def bitCount (n : Nat) : Nat := (digitsIn 2 n).count '1'

/-- The bytes of a natural number, least significant first. -/
def littleEndian : Nat → Nat → List UInt8
  | 0, _ => []
  | k + 1, n => UInt8.ofNat (n % 256) :: littleEndian k (n / 256)

/-- The bytes of an integer. -/
def toBytes (i : Int) (length : Int) (order : String) (signed : Bool) : Act Value := do
  if length < 0 then valueError "length argument must be non-negative"
  if order != "big" && order != "little" then
    valueError "byteorder must be either 'little' or 'big'"
  let k := length.toNat
  if i < 0 && !signed then fault .overflow "can't convert negative int to unsigned"
  let top : Int := Nat.pow 2 (8 * k)
  let fits : Bool := if signed then -top ≤ 2 * i && 2 * i < top else i < top
  if !fits then fault .overflow "int too big to convert"
  let n := (i % top).toNat
  let bs := littleEndian k n
  return .bytes (if order == "big" then bs.reverse else bs)

/-- The integer that bytes stand for. -/
def fromBytes (bs : List UInt8) (order : String) (signed : Bool) : Act Value := do
  if order != "big" && order != "little" then
    valueError "byteorder must be either 'little' or 'big'"
  let bs := if order == "big" then bs else bs.reverse
  let n : Nat := bs.foldl (fun (acc : Nat) b => acc * 256 + b.toNat) 0
  let top : Nat := Nat.pow 2 (8 * bs.length)
  return .int (if signed && 2 * n ≥ top && !bs.isEmpty then (n : Int) - top else n)

/-- The arguments that say how bytes are ordered. -/
def orderArg (v : Option Value) : Act String := do
  match v with
  | none => return "big"
  | some (.str s) => return s
  | some w => typeError ("to_bytes() argument 'byteorder' must be str, not " ++ w.typeName)

/-- The hexadecimal form of a double. -/
def hexText (x : Float) : String :=
  match parts x with
  | .nan => "nan"
  | .infinite negative => if negative then "-inf" else "inf"
  | .finite negative m e =>
    let sign := if negative then "-" else ""
    if m == 0 then sign ++ "0x0.0p+0"
    else
      let lead := if m ≥ Nat.pow 2 52 then "1" else "0"
      let power : Int := if m ≥ Nat.pow 2 52 then e + 52 else -1022
      sign ++ "0x" ++ lead ++ "." ++ String.ofList (Text.hexPadded (m % Nat.pow 2 52) 13) ++ "p" ++
        (if power < 0 then "-" else "+") ++ toString power.natAbs

/-- Call a method of an integer. -/
def callInt (i : Int) (name : String) (a : Args) : Act Value := do
  match name with
  | "bit_length" => a.nothing "int.bit_length"; return .int (bitLength i.natAbs)
  | "bit_count" =>
    a.nothing "int.bit_count"
    return .int (bitCount i.natAbs)
  | "conjugate" => a.nothing "int.conjugate"; return .int i
  | "as_integer_ratio" => a.nothing "int.as_integer_ratio"; return .tuple [.int i, .int 1]
  | "to_bytes" => do
    match ← a.slots name ["length", "byteorder", "signed"] 2 0 with
    | [length, order, signed] =>
      let k ← match length with
        | some v => sizeArg v
        | none => pure 1
      toBytes i k (← orderArg order) (← truthy (signed.getD .none))
    | _ => return .none
  | "from_bytes" => do
    match ← a.slots name ["bytes", "byteorder", "signed"] 2 1 with
    | [some (.bytes bs), order, signed] => fromBytes bs (← orderArg order) (← truthy (signed.getD .none))
    | [some v, _, _] => typeError ("cannot convert '" ++ v.typeName ++ "' object to bytes")
    | _ => return .none
  | _ => fault .missingAttribute ("'int' object has no attribute '" ++ name ++ "'")

/-- Call a method of a double. -/
def callFloat (x : Float) (name : String) (a : Args) : Act Value := do
  match name with
  | "is_integer" => a.nothing "float.is_integer"; return .bool (integer? x).isSome
  | "conjugate" => a.nothing "float.conjugate"; return .float x
  | "hex" => a.nothing "float.hex"; return .str (hexText x)
  | "as_integer_ratio" => do
    a.nothing "float.as_integer_ratio"
    match parts x with
    | .nan => valueError "cannot convert NaN to integer ratio"
    | .infinite _ => fault .overflow "cannot convert Infinity to integer ratio"
    | .finite negative m e =>
      let (n, d) := ratio m e
      let g := Nat.gcd n d
      let n : Int := (n / g : Nat)
      return .tuple [.int (if negative then -n else n), .int (d / g : Nat)]
  | "fromhex" => do
    match ← a.one "float.fromhex" with
    | .str s =>
      match readHexDouble s.toList with
      | none => valueError "invalid hexadecimal floating-point string"
      | some y =>
        if y.isInf && s.toList.any Char.isDigit then
          fault .overflow "hexadecimal value too large to represent as a float"
        return .float y
    | _ => typeError "bad argument type for built-in operation"
  | _ => fault .missingAttribute ("'float' object has no attribute '" ++ name ++ "'")

end Stencil.Expr
