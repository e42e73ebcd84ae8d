import Stencil.Failure
import Stencil.Text.Letter
import Stencil.Text.Blank
/-!
# Stencil.Number.Integer -- integers and their digits

Integers as digits of a base and back. Since turning a large integer into decimal digits takes
long, integers of more than a fixed number of digits are refused, in both directions; bases that
are powers of two have no such limit.
-/

namespace Stencil.Number

/-- The greatest number of decimal digits that is converted. -/
def digitLimit : Nat := 4300

/-- The advice that ends a refusal. -/
def digitAdvice : String := "use sys.set_int_max_str_digits() to increase the limit"

/-- The refusal of an integer that has too many digits. -/
def tooManyDigits : Failure :=
  .fault .badValue ("Exceeds the limit (4300 digits) for integer string conversion; " ++ digitAdvice)

/-- The refusal of a text with too many digits. -/
def tooManyDigitsIn (count : Nat) : Failure :=
  .fault .badValue ("Exceeds the limit (4300 digits) for integer string conversion: value has " ++
    toString count ++ " digits; " ++ digitAdvice)

/-- The decimal digits of an integer, or a refusal when there are too many. -/
def integerText (i : Int) : Except Failure String :=
  if Nat.log2 i.natAbs ≥ 14285 then .error tooManyDigits
  else
    let ds := Nat.toDigits 10 i.natAbs
    if ds.length > digitLimit then .error tooManyDigits
    else .ok (String.ofList (if i < 0 then '-' :: ds else ds))

/-- The powers of a base up to `n`, each the square of the one after it; `p` is the next one to come.
At most as many are added as the count allows. -/
def squaresUpTo (n p : Nat) : Nat → List Nat → List Nat
  | 0, ps => ps
  | k + 1, ps => if p ≤ n then squaresUpTo n (p * p) k (p :: ps) else ps

/-- The digits of a number below the square of the first power, with zeros before them: each power
cuts the digits in two halves. -/
def halvedDigits : List Nat → Nat → List Char
  | [], n => [Nat.digitChar n]
  | p :: ps, n => halvedDigits ps (n / p) ++ halvedDigits ps (n % p)

/-- The digits of a natural number in a base from two to sixteen. Long numbers are cut in halves,
since taking one digit after the other off them would take long. -/
def digitsIn (base n : Nat) : List Char :=
  if Nat.log2 n < 4096 then Nat.toDigits base n
  else
    let powers := squaresUpTo n base (Nat.log2 (Nat.log2 n) + 1) []
    (halvedDigits powers n).dropWhile (· == '0')

/-! ## Reading -/

/-- The value of a digit in bases up to thirty-six. -/
def digitValue? (c : Char) : Option Nat :=
  match Text.decimalValue? c with
  | some v => some v
  | none =>
    let n := c.toNat
    if 97 ≤ n && n ≤ 122 then some (n - 87)
    else if 65 ≤ n && n ≤ 90 then some (n - 55)
    else none

/-- The value of a hexadecimal digit. -/
def hexValue? (c : Char) : Option Nat :=
  if c.isDigit then some (c.toNat - 48)
  else if 'a' ≤ c && c ≤ 'f' then some (c.toNat - 87)
  else if 'A' ≤ c && c ≤ 'F' then some (c.toNat - 55)
  else none

/-- Read digits of a base; single underscores may stand between digits. `pending` tells that a digit
has to follow. -/
def readDigits (base : Nat) (acc count : Nat) (pending : Bool) :
    List Char → Option (Nat × Nat)
  | [] => if pending then none else some (acc, count)
  | '_' :: r => if pending then none else readDigits base acc count true r
  | c :: r =>
    match digitValue? c with
    | some v => if v < base then readDigits base (acc * base + v) (count + 1) false r else none
    | none => none

/-- Drop the mark of a base; an underscore may follow it. -/
def dropMark (marks : List Char) (s : List Char) : Option (List Char) :=
  match s with
  | '0' :: m :: r =>
    if marks.contains m then
      match r with
      | '_' :: r' => some r'
      | _ => some r
    else none
  | _ => none

/-- Split off the mark of a base: the base that holds and the digits. Base zero takes the base from
the mark. -/
def splitBase (base : Nat) (s : List Char) : Nat × List Char :=
  let binary := dropMark ['b', 'B'] s
  let octal := dropMark ['o', 'O'] s
  let hex := dropMark ['x', 'X'] s
  match base, binary, octal, hex with
  | 0, some r, _, _ => (2, r)
  | 0, _, some r, _ => (8, r)
  | 0, _, _, some r => (16, r)
  | 0, _, _, _ => (10, s)
  | 2, some r, _, _ => (2, r)
  | 8, _, some r, _ => (8, r)
  | 16, _, _, some r => (16, r)
  | b, _, _, _ => (b, s)

/-- Read an integer in a base, with blanks around it and a sign before it. The result is none when
the text is no such integer, and a refusal when it has too many digits. -/
def readInteger (base : Nat) (s : List Char) : Except Failure (Option Int) :=
  let body := Text.trim s
  let (negative, digits) := match body with
    | '-' :: r => (true, r)
    | '+' :: r => (false, r)
    | r => (false, r)
  let (actual, digits) := splitBase base digits
  let leading := match digits with
    | '0' :: _ :: _ => base == 0 && actual == 10 && !(digits.all fun c => c == '0' || c == '_')
    | _ => false
  let count := (digits.filter (· != '_')).length
  let powerOfTwo := actual == 2 || actual == 4 || actual == 8 || actual == 16 || actual == 32
  if leading then .ok none
  else if !powerOfTwo && count > digitLimit && digits.all (fun c => (digitValue? c).isSome || c == '_')
  then .error (tooManyDigitsIn count)
  else
    match readDigits actual 0 0 true digits with
    | some (n, _) => .ok (some (if negative then -(n : Int) else n))
    | none => .ok none

end Stencil.Number
