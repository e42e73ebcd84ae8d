import Stencil.Number.Shortest
/-!
# Stencil.Number.Fixed -- a wanted number of digits

Doubles written with a given number of places after the point, or with a given number of
significant digits. The exact value is rounded once; ties go to the even digit.
-/

namespace Stencil.Number

/-- The digits of `n / d` with `places` digits after the point: the digits before it and those
after it. -/
def fixedDigits (n d places : Nat) : List Char × List Char :=
  let q := roundDiv (n * Nat.pow 10 places) d
  let ds := digitsPadded q (places + 1)
  (ds.take (ds.length - places), ds.drop (ds.length - places))

/-- The `count` significant digits of `n / d`, and the position of the point. Zero has its point
behind the first digit. -/
def significantDigits (n d count : Nat) : List Char × Int :=
  if n == 0 then (List.replicate count '0', 1)
  else
    let p := pointOf n d
    let (a, b) := scaleTen n d ((count : Int) - p)
    let q := roundDiv a b
    if q == Nat.pow 10 count then ('1' :: List.replicate (count - 1) '0', p + 1)
    else (digitsPadded q count, p)

/-- How a double is written. -/
inductive FloatStyle where
  /-- With a fixed number of places after the point. -/
  | places
  /-- As one digit, the places after it, and an exponent. -/
  | exponent
  /-- With a number of significant digits, in the shorter of the two ways. -/
  | general
  /-- The shortest digits that read back. -/
  | shortest
  deriving DecidableEq, Repr

/-- Drop the zeros at the end. -/
def dropZeros (ds : List Char) : List Char := (ds.reverse.dropWhile (· == '0')).reverse

/-- A point and digits after it; the point alone only on demand. -/
def pointAnd (ds : List Char) (always : Bool) : List Char :=
  if ds.isEmpty then (if always then ['.'] else []) else '.' :: ds

/-- One digit, the point, the other digits, and the exponent. -/
def exponentForm (ds : List Char) (point : Int) (always : Bool) : List Char × List Char :=
  (ds.take 1, pointAnd (ds.drop 1) always ++ 'e' :: exponentText (point - 1) 2)

/-- Digits around the point at a given position. -/
def positional (ds : List Char) (point : Int) (always : Bool) : List Char × List Char :=
  if point ≤ 0 then (['0'], pointAnd (List.replicate (-point).toNat '0' ++ ds) always)
  else
    let p := point.toNat
    (ds.take p ++ List.replicate (p - ds.length) '0', pointAnd (ds.drop p) always)

/-- The magnitude of a finite double `m · 2^e`, cut before the point. `alternate` keeps the point
and the zeros of the general style; `point` asks for at least one digit after the point, as the
general style does when it stands in for the default one. -/
def magnitudeText (style : FloatStyle) (precision : Nat) (alternate point : Bool) (m : Nat)
    (e : Int) : List Char × List Char :=
  let (n, d) := ratio m e
  match style with
  | .places =>
    let (whole, part) := fixedDigits n d precision
    (whole, pointAnd part alternate)
  | .exponent =>
    let (ds, p) := significantDigits n d (precision + 1)
    exponentForm ds p alternate
  | .general =>
    let count := max precision 1
    let (ds, p) := significantDigits n d count
    let kept := if alternate then ds else dropZeros ds
    let kept := if kept.isEmpty then ['0'] else kept
    let bound : Int := if point then (count : Int) - 1 else count
    if p ≤ -4 || p > bound then exponentForm kept p alternate
    else
      let (whole, part) := positional kept p alternate
      if point && part.isEmpty then (whole, ['.', '0']) else (whole, part)
  | .shortest =>
    let (ds, p) := if m == 0 then (['0'], 1) else
      let s := shortest m e
      (s.chars, s.point)
    if p ≤ -4 || p > 16 then exponentForm ds p alternate
    else
      let (whole, part) := positional ds p alternate
      if point && part.isEmpty then (whole, ['.', '0']) else (whole, part)

/-- Put a separator between groups of digits, counted from the right; zeros are added on the left
until the text has at least `width` characters, and never start with a separator. -/
def groupFrom (sep : Char) (size : Nat) : Nat → List Char → Int → Bool → List Char
  | 0, ds, _, _ => ds.reverse
  | fuel + 1, ds, width, later =>
    let len := min (size : Int) (max (max (ds.length : Int) width) 1)
    let chars := ds.take len.toNat
    let zeros := List.replicate (len.toNat - ds.length) '0'
    let piece := zeros ++ chars.reverse ++ (if later then [sep] else [])
    let rest := ds.drop len.toNat
    let width := width - len
    if rest.isEmpty && width ≤ 0 then piece
    else groupFrom sep size fuel rest (width - 1) true ++ piece

/-- Group the digits of a whole number. -/
def groupDigits (sep : Char) (size : Nat) (ds : List Char) (width : Int) : List Char :=
  groupFrom sep size (ds.length + width.toNat + 1) ds.reverse width false

end Stencil.Number
