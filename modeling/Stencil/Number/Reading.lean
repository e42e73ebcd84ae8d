import Stencil.Number.Binary64
import Stencil.Number.Integer
/-!
# Stencil.Number.Reading -- doubles from text

A decimal or hexadecimal number is read as an exact fraction and rounded once. Exponents that are
far out of range are decided without computing the fraction.
-/

namespace Stencil.Number

/-- The double nearest to `± digits · 10^exponent`, for a number of `count` digits. -/
def ofDecimal (negative : Bool) (digits : Nat) (exponent : Int) : Float :=
  if digits == 0 then ofMagnitude negative 0
  else
    let size : Int := (Nat.log2 digits : Int) * 3 / 10 + exponent
    if size > 400 then infinity negative
    else if size < -400 then ofMagnitude negative 0
    else if exponent ≥ 0 then ofRatio negative (digits * Nat.pow 10 exponent.toNat) 1
    else ofRatio negative digits (Nat.pow 10 (-exponent).toNat)

/-- Read digits, between which single underscores may stand: their value, how many, the rest. -/
def readRun (acc count : Nat) : List Char → Nat × Nat × List Char
  | '_' :: c :: r =>
    if c.isDigit && count > 0 then readRun (acc * 10 + (c.toNat - 48)) (count + 1) r
    else (acc, count, '_' :: c :: r)
  | c :: r =>
    if c.isDigit then readRun (acc * 10 + (c.toNat - 48)) (count + 1) r else (acc, count, c :: r)
  | [] => (acc, count, [])

/-- Read a number without a sign: digits, a point and more digits, an exponent. -/
def readUnsigned (negative : Bool) (s : List Char) : Option Float :=
  let (whole, n, r) := readRun 0 0 s
  let (value, places, r) := match r with
    | '.' :: '_' :: _ => (whole, 0, r)
    | '.' :: r' =>
      let (v, k, r'') := readRun whole 0 r'
      (v, k, r'')
    | _ => (whole, 0, r)
  if n == 0 && places == 0 then none
  else
    match r with
    | [] => some (ofDecimal negative value (-(places : Int)))
    | c :: r =>
      if c == 'e' || c == 'E' then
        let (down, r) := match r with
          | '-' :: r => (true, r)
          | '+' :: r => (false, r)
          | r => (false, r)
        let (e, k, r) := readRun 0 0 r
        if k == 0 || !r.isEmpty then none
        else some (ofDecimal negative value ((if down then -(e : Int) else e) - places))
      else none

/-- Read a double, with blanks around it and a sign before it, or one of the names of the infinite
values and of the value that is no number. -/
def readDouble (s : List Char) : Option Float :=
  let body := (Text.trim s).map fun c =>
    match Text.decimalValue? c with
    | some v => Char.ofNat (48 + v)
    | none => c
  let (negative, r) := match body with
    | '-' :: r => (true, r)
    | '+' :: r => (false, r)
    | r => (false, r)
  let word := String.ofList (r.map Char.toLower)
  if word == "inf" || word == "infinity" then some (infinity negative)
  else if word == "nan" then some (0.0 / 0.0)
  else readUnsigned negative r

/-! ## Hexadecimal text -/

/-- The double nearest to `± digits · 2^exponent`. -/
def ofBinary (negative : Bool) (digits : Nat) (exponent : Int) : Float :=
  let size : Int := (Nat.log2 digits : Int) + exponent
  if digits == 0 || size < -1200 then ofMagnitude negative 0
  else if size > 1200 then infinity negative
  else if exponent ≥ 0 then ofRatio negative (digits * Nat.pow 2 exponent.toNat) 1
  else ofRatio negative digits (Nat.pow 2 (-exponent).toNat)

/-- Read hexadecimal digits: their value, how many, the rest. -/
def readHexRun (acc count : Nat) : List Char → Nat × Nat × List Char
  | [] => (acc, count, [])
  | c :: r =>
    match hexValue? c with
    | some v => readHexRun (acc * 16 + v) (count + 1) r
    | none => (acc, count, c :: r)

/-- Read the exponent of a hexadecimal number, a power of two; without one the power is zero. -/
def readPower (s : List Char) : Option Int :=
  match s with
  | [] => some 0
  | c :: r =>
    let (down, digits) := match r with
      | '-' :: r => (true, r)
      | '+' :: r => (false, r)
      | r => (false, r)
    if (c == 'p' || c == 'P') && !digits.isEmpty && digits.all Char.isDigit then
      let n : Nat := digits.foldl (fun (n : Nat) d => 10 * n + (d.toNat - 48)) 0
      some (if down then -(n : Int) else n)
    else none

/-- Read a double from hexadecimal digits, with blanks around it and a sign before it, or one of the
names of the values that are no finite numbers. -/
def readHexDouble (s : List Char) : Option Float :=
  let (negative, body) := match Text.trim s with
    | '-' :: r => (true, r)
    | '+' :: r => (false, r)
    | r => (false, r)
  let word := String.ofList (body.map Char.toLower)
  if word == "inf" || word == "infinity" then some (infinity negative)
  else if word == "nan" then some (0.0 / 0.0)
  else
    let unmarked := match body with
      | '0' :: m :: r => if m == 'x' || m == 'X' then r else body
      | _ => body
    let (whole, n, r) := readHexRun 0 0 unmarked
    let (value, places, r) := match r with
      | '.' :: r => readHexRun whole 0 r
      | _ => (whole, 0, r)
    if n + places == 0 then none
    else (readPower r).map fun e => ofBinary negative value (e - 4 * (places : Int))

end Stencil.Number
