import Stencil.Number.Binary64
/-!
# Stencil.Number.Shortest -- the fewest digits that read back

The shortest decimal that rounds to a given positive double, and of the shortest ones the nearest.
The reals that round to `m · 2^e` form an interval around it; on the grid of decimals with `k`
significant digits it is enough to test the two neighbours of the value, for `k` from one up.
-/

namespace Stencil.Number

/-- Significant digits, most significant first, as a natural number, and the position of the
decimal point: the number is `0.d₁d₂… · 10^point`. -/
structure Digits where
  value : Nat
  count : Nat
  point : Int
  deriving Repr, DecidableEq

/-- The number of decimal digits. -/
def decimalLength (n : Nat) : Nat := (Nat.toDigits 10 n).length

/-- A fraction times `10^k`, as a fraction. -/
def scaleTen (n d : Nat) (k : Int) : Nat × Nat :=
  if k ≥ 0 then (n * Nat.pow 10 k.toNat, d) else (n, d * Nat.pow 10 (-k).toNat)

/-- The least `p` with `n / d < 10^p`, for a positive fraction. -/
def pointOf (n d : Nat) : Int :=
  let guess : Int := (decimalLength n : Int) - (decimalLength d : Int)
  let (a, b) := scaleTen n d (-guess)
  if a < b then guess else guess + 1

/-- The interval of reals that round to `m · 2^e`, with bounds given in units of `2^(e-2)`; the
bounds belong to it when the significand is even. -/
structure Interval where
  low : Nat
  high : Nat
  closed : Bool

/-- The rounding interval. Below a power of two the lower neighbour is only half as far away. -/
def interval (m : Nat) (e : Int) : Interval :=
  let low := if m == Nat.pow 2 52 && e > -1074 then 4 * m - 1 else 4 * m - 2
  ⟨low, 4 * m + 2, m % 2 == 0⟩

/-- Whether the fraction `n / d` lies in the interval, whose unit is `u / v`. -/
def Interval.holds (i : Interval) (u v n d : Nat) : Bool :=
  let x := n * v
  let lo := i.low * u * d
  let hi := i.high * u * d
  if i.closed then lo ≤ x && x ≤ hi else lo < x && x < hi

/-- Try the decimals with `k` digits, then `k + 1`, and so on, `fuel` times. Of the two neighbours
of the value the nearer wins if both read back. -/
def shortestFrom (i : Interval) (u v n d : Nat) (point : Int) : Nat → Nat → Digits
  | 0, k => ⟨roundDiv (scaleTen n d (k - point)).1 (scaleTen n d (k - point)).2, k, point⟩
  | fuel + 1, k =>
    let (a, b) := scaleTen n d ((k : Int) - point)
    let below := a / b
    let above := below + 1
    let reads (t : Nat) : Bool :=
      let (p, q) := scaleTen t 1 (point - (k : Int))
      t > 0 && i.holds u v p q
    let nearer := roundDiv a b
    let other := if nearer == below then above else below
    let found (t : Nat) : Digits :=
      if t == Nat.pow 10 k then ⟨1, 1, point + 1⟩ else ⟨t, k, point⟩
    if reads nearer then found nearer
    else if reads other then found other
    else shortestFrom i u v n d point fuel (k + 1)

/-- The shortest digits of `m · 2^e`, for positive `m`. Seventeen always suffice. -/
def shortest (m : Nat) (e : Int) : Digits :=
  let (n, d) := ratio m e
  let (u, v) := ratio 1 (e - 2)
  shortestFrom (interval m e) u v n d (pointOf n d) 17 1

/-- The decimal digits of a natural number, padded with zeros on the left to `width`. -/
def digitsPadded (n width : Nat) : List Char :=
  let ds := Nat.toDigits 10 n
  List.replicate (width - ds.length) '0' ++ ds

/-- Drop the zeros at the end of the digits. -/
def Digits.chars (d : Digits) : List Char :=
  (((digitsPadded d.value d.count).reverse.dropWhile (· == '0')).reverse)

/-! ## The default text of a double -/

/-- How the default text of a double is laid out. -/
structure Layout where
  /-- Least position of the decimal point that is written positionally. -/
  leastPoint : Int
  /-- Greatest such position. -/
  greatestPoint : Int
  /-- Least number of digits of an exponent. -/
  exponentDigits : Nat

/-- Numbers from `1e-4` up to but excluding `1e16` are written positionally, always with a point;
exponents have a sign and at least two digits. -/
def defaultLayout : Layout := ⟨-3, 16, 2⟩

/-- An exponent with its sign, padded to `width` digits. -/
def exponentText (e : Int) (width : Nat) : List Char :=
  (if e < 0 then '-' else '+') :: digitsPadded e.natAbs width

/-- Lay out significant digits. -/
def Layout.write (l : Layout) (ds : List Char) (point : Int) : List Char :=
  if l.leastPoint ≤ point && point ≤ l.greatestPoint then
    if point ≤ 0 then "0.".toList ++ List.replicate (-point).toNat '0' ++ ds
    else
      let p := point.toNat
      let whole := ds.take p ++ List.replicate (p - ds.length) '0'
      let fraction := ds.drop p
      whole ++ '.' :: (if fraction.isEmpty then ['0'] else fraction)
  else
    match ds with
    | [] => ['0']
    | [d] => d :: 'e' :: exponentText (point - 1) l.exponentDigits
    | d :: rest => d :: '.' :: rest ++ 'e' :: exponentText (point - 1) l.exponentDigits

/-- The default text of a double: the fewest digits that read back. -/
def floatText (x : Float) : String :=
  match parts x with
  | .nan => "nan"
  | .infinite negative => if negative then "-inf" else "inf"
  | .finite negative m e =>
    let body :=
      if m == 0 then "0.0".toList
      else
        let d := shortest m e
        defaultLayout.write d.chars d.point
    String.ofList (if negative then '-' :: body else body)

end Stencil.Number
