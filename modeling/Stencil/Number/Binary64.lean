/-!
# Stencil.Number.Binary64 -- double precision numbers as exact rationals

A finite double is `± m · 2^e` for a natural number `m` and an integer `e`; both are read off its
bits. In the other direction `ofRatio` rounds a fraction of natural numbers to the nearest double,
ties to the even significand. Every conversion between doubles, integers and decimal text in this
library goes through these two, so each rounds once and correctly.
-/

namespace Stencil.Number

/-- The parts of a double. -/
inductive Parts where
  | nan
  | infinite (negative : Bool)
  /-- The number `± m · 2^e`. -/
  | finite (negative : Bool) (m : Nat) (e : Int)
  deriving Repr

/-- Read the parts off the bits: sign, eleven bits of exponent, fifty-two bits of significand. -/
def parts (x : Float) : Parts :=
  let bits := x.toBits.toNat
  let negative := bits / Nat.pow 2 63 == 1
  let field : Nat := bits / Nat.pow 2 52 % Nat.pow 2 11
  let low : Nat := bits % Nat.pow 2 52
  if field == 2047 then
    if low == 0 then .infinite negative else .nan
  else if field == 0 then .finite negative low (-1074)
  else .finite negative (Nat.pow 2 52 + low) ((field : Int) - 1075)

/-- Whether the sign bit is set. -/
def isNegative (x : Float) : Bool := x.toBits.toNat / Nat.pow 2 63 == 1

/-- The double with the given sign and magnitude bits. -/
def ofMagnitude (negative : Bool) (bits : Nat) : Float :=
  Float.ofBits (UInt64.ofNat (if negative then Nat.pow 2 63 + bits else bits))

/-- The infinity of the given sign. -/
def infinity (negative : Bool) : Float := ofMagnitude negative (2047 * Nat.pow 2 52)

/-- The quotient of `n` by `d`, rounded to the nearest natural number, ties to the even one. -/
def roundDiv (n d : Nat) : Nat :=
  let q := n / d
  let r := n % d
  if 2 * r > d || (2 * r == d && q % 2 == 1) then q + 1 else q

/-- The fraction `num / den` divided by `2^e`, as a fraction. -/
def scale (num den : Nat) (e : Int) : Nat × Nat :=
  if e ≥ 0 then (num, den * Nat.pow 2 e.toNat) else (num * Nat.pow 2 (-e).toNat, den)

/-- The exponent at which `num / den` has a fifty-three bit significand, or the least exponent. -/
def exponentFor (num den : Nat) : Int :=
  let guess : Int := (Nat.log2 num : Int) - (Nat.log2 den : Int) - 53
  let (n, d) := scale num den guess
  -- The guess is right or one too low.
  let e := if n / d ≥ Nat.pow 2 53 then guess + 1 else guess
  if e < -1074 then -1074 else e

/-- The double nearest to `± num / den`; an infinity when it is out of range. -/
def ofRatio (negative : Bool) (num den : Nat) : Float :=
  if num == 0 || den == 0 then ofMagnitude negative 0
  else
    let e := exponentFor num den
    let (n, d) := scale num den e
    let q := roundDiv n d
    -- Rounding may have filled one more bit.
    let (q, e) := if q == Nat.pow 2 53 then (Nat.pow 2 52, e + 1) else (q, e)
    if e > 971 then infinity negative
    else if q < Nat.pow 2 52 then ofMagnitude negative q
    else ofMagnitude negative ((e + 1075).toNat * Nat.pow 2 52 + (q - Nat.pow 2 52))

/-- The double nearest to an integer. -/
def ofInt (i : Int) : Float := ofRatio (i < 0) i.natAbs 1

/-- A finite double as an exact fraction, sign apart. -/
def ratio (m : Nat) (e : Int) : Nat × Nat :=
  if e ≥ 0 then (m * Nat.pow 2 e.toNat, 1) else (m, Nat.pow 2 (-e).toNat)

/-- The integer part of a finite double, toward zero. -/
def truncate? (x : Float) : Option Int :=
  match parts x with
  | .finite negative m e =>
    let (n, d) := ratio m e
    some (if negative then -((n / d : Nat) : Int) else (n / d : Nat))
  | _ => none

/-- The value of a double that is an integer. -/
def integer? (x : Float) : Option Int :=
  match parts x with
  | .finite negative m e =>
    let (n, d) := ratio m e
    if n % d == 0 then some (if negative then -((n / d : Nat) : Int) else (n / d : Nat)) else none
  | _ => none

/-- Whether a double is neither infinite nor a NaN. -/
def isFinite (x : Float) : Bool :=
  match parts x with
  | .finite .. => true
  | _ => false

/-! ## Order between integers and doubles -/

/-- Compare an integer with a double exactly; a NaN compares with nothing. -/
def compareInt (i : Int) (x : Float) : Option Ordering :=
  match parts x with
  | .nan => none
  | .infinite negative => some (if negative then .gt else .lt)
  | .finite negative m e =>
    let (n, d) := ratio m e
    let v : Int := if negative then -(n : Int) else n
    some (compare (i * d) v)

/-! ## Remainders -/

/-- The remainder of division toward zero, which is always exact. -/
def remainder (x y : Float) : Float :=
  match parts x, parts y with
  | .finite nx mx ex, .finite _ my ey =>
    if my == 0 then 0.0 / 0.0
    else
      let e := if ex ≤ ey then ex else ey
      let a := mx * Nat.pow 2 (ex - e).toNat
      let b := my * Nat.pow 2 (ey - e).toNat
      let r := a % b
      let (n, d) := ratio r e
      ofRatio nx n d
  | .finite .., .infinite _ => x
  | _, _ => 0.0 / 0.0

/-- The magnitude of `x` with the sign of `y`. -/
def withSignOf (x y : Float) : Float :=
  let magnitude := x.toBits.toNat % Nat.pow 2 63
  ofMagnitude (isNegative y) magnitude

/-- Floored quotient and remainder: the remainder has the sign of the divisor. -/
def floorDivMod (x y : Float) : Float × Float :=
  let r := remainder x y
  let q := (x - r) / y
  let (r, q) :=
    if r != 0 then
      if (y < 0) != (r < 0) then (r + y, q - 1) else (r, q)
    else (withSignOf 0 y, q)
  let whole :=
    if q != 0 then
      -- The quotient is an integer but for the rounding of the division.
      let f := q.floor
      if q - f > 0.5 then f + 1 else f
    else withSignOf 0 (x / y)
  (whole, r)

end Stencil.Number
