import Stencil.Expr.Show
import Stencil.Number.Fixed
/-!
# Stencil.Expr.Format -- values laid out by a format

A format says how a number or a text is laid out in a field: fill and alignment, sign, width,
grouping of digits, precision, and a presentation type. It is read once and then applied to the
value; what a value cannot honour is a fault.
-/

namespace Stencil.Expr

open Stencil.Number

/-! ## Reading a format -/

/-- A format. -/
structure Format where
  fill : Char := ' '
  align : Option Char := none
  sign : Option Char := none
  positiveZero : Bool := false
  alternate : Bool := false
  width : Option Nat := none
  group : Option Char := none
  precision : Option Nat := none
  type : Option Char := none
  deriving Repr

/-- The characters that align. -/
def isAlign (c : Char) : Bool := c == '<' || c == '>' || c == '=' || c == '^'

/-- Read a number; none when there are no digits, a fault when there are too many. -/
def readCount (s : List Char) : Except Failure (Option Nat × List Char) :=
  let ds := s.takeWhile fun c => (Text.decimalValue? c).isSome
  let rest := s.drop ds.length
  if ds.isEmpty then .ok (none, rest)
  else
    let n := ds.foldl (fun acc c => acc * 10 + (Text.decimalValue? c).getD 0) 0
    if n > 9223372036854775807 then
      .error (.fault .badValue "Too many decimal digits in format string")
    else .ok (some n, rest)

/-- A fault of a format. -/
def badFormat {α : Type} (message : String) : Except Failure α := .error (.fault .badValue message)

/-- The refusal of both group separators at once. -/
def bothGroups {α : Type} : Except Failure α := badFormat "Cannot specify both ',' and '_'."

/-- Read a format for a value of the type with the given name. `numeric` values are aligned to the
right by default, and `usual` is the presentation type they have when none is given. -/
def Format.read (typeName : String) (numeric : Bool) (usual : Option Char) (spec : List Char) :
    Except Failure Format := do
  let (f, filled, s) : Format × Bool × List Char := match spec with
    | c :: a :: r =>
      if isAlign a then ({ fill := c, align := some a }, true, r)
      else if isAlign c then ({ align := some c }, false, a :: r)
      else ({}, false, c :: a :: r)
    | [c] => if isAlign c then ({ align := some c }, false, []) else ({}, false, [c])
    | [] => ({}, false, [])
  let (f, s) := match s with
    | c :: r => if c == ' ' || c == '+' || c == '-' then ({ f with sign := some c }, r) else (f, s)
    | [] => (f, s)
  let (f, s) := match s with
    | 'z' :: r => ({ f with positiveZero := true }, r)
    | _ => (f, s)
  let (f, s) := match s with
    | '#' :: r => ({ f with alternate := true }, r)
    | _ => (f, s)
  let (f, s) := match s with
    | '0' :: r =>
      if filled then (f, s)
      else
        -- A zero before the width stands for filling between the sign and the digits.
        let align := if f.align.isNone && numeric then some '=' else f.align
        ({ f with fill := '0', align := align }, r)
    | _ => (f, s)
  let (width, s) ← readCount s
  let f := { f with width := width }
  let (f, s) := match s with
    | ',' :: r => ({ f with group := some ',' }, r)
    | _ => (f, s)
  let (f, s) ← match s with
    | '_' :: r => if f.group.isSome then bothGroups else pure ({ f with group := some '_' }, r)
    | _ => pure (f, s)
  if s.head? == some ',' && f.group == some '_' then bothGroups
  let (f, s) ← match s with
    | '.' :: r => do
      match ← readCount r with
      | (some p, r) => pure ({ f with precision := some p }, r)
      | (none, _) => badFormat "Format specifier missing precision"
    | _ => pure (f, s)
  let f ← match s with
    | [] => pure { f with type := usual }
    | [c] => pure { f with type := some c }
    | _ => badFormat ("Invalid format specifier '" ++ String.ofList spec ++
        "' for object of type '" ++ typeName ++ "'")
  match f.group, f.type with
  | some g, some t =>
    if "deEfFgG%".toList.contains t then pure f
    else if g == '_' && "boxX".toList.contains t then pure f
    else
      badFormat ("Cannot specify '" ++ String.singleton g ++ "' with '" ++ String.singleton t ++ "'.")
  | _, _ => pure f

/-! ## Layout -/

/-- Pad a text to the width of the format. -/
def Format.pad (f : Format) (usual : Char) (s : List Char) : List Char :=
  let missing := f.width.getD 0 - s.length
  let fills (n : Nat) := List.replicate n f.fill
  match f.align.getD usual with
  | '<' => s ++ fills missing
  | '^' => fills (missing / 2) ++ s ++ fills (missing - missing / 2)
  | _ => fills missing ++ s

/-- Lay out a number: its sign, a mark such as that of a base, digits before the point, and
the rest. -/
def Format.number (f : Format) (negative : Bool) (mark whole rest : List Char) (groupSize : Nat) :
    List Char :=
  let sign : List Char :=
    if negative then ['-']
    else match f.sign with
      | some '+' => ['+']
      | some ' ' => [' ']
      | _ => []
  let start := sign ++ mark
  -- Zeros that fill a number are grouped with its digits.
  let inner : Int :=
    if f.fill == '0' && f.align == some '=' then
      (f.width.getD 0 : Int) - start.length - rest.length
    else 0
  let digits := match f.group with
    | some g => groupDigits g groupSize whole inner
    | none => whole
  if f.align == some '=' then
    let missing := f.width.getD 0 - (start.length + digits.length + rest.length)
    start ++ List.replicate missing f.fill ++ digits ++ rest
  else f.pad '>' (start ++ digits ++ rest)

/-- The fault of a presentation type that a value does not have. -/
def unknownType {α : Type} (t : Char) (typeName : String) : Except Failure α :=
  let shown :=
    if 32 < t.toNat && t.toNat < 128 then String.singleton t
    else "\\x" ++ String.ofList (Nat.toDigits 16 t.toNat)
  badFormat ("Unknown format code '" ++ shown ++ "' for object of type '" ++ typeName ++ "'")

/-- Lay out a text. -/
def formatText (spec : List Char) (s : String) : Except Failure String := do
  let f ← Format.read "str" false (some 's') spec
  if f.sign.isSome then
    let shown := if f.sign == some ' ' then "Space" else "Sign"
    badFormat (shown ++ " not allowed in string format specifier")
  if f.positiveZero then
    badFormat "Negative zero coercion (z) not allowed in string format specifier"
  if f.alternate then badFormat "Alternate form (#) not allowed in string format specifier"
  if f.align == some '=' then badFormat "'=' alignment not allowed in string format specifier"
  match f.type with
  | some 's' =>
    let cs := match f.precision with
      | some p => s.toList.take p
      | none => s.toList
    pure (String.ofList (f.pad '<' cs))
  | some t => unknownType t "str"
  | none => pure s

/-- The text of a double that is not finite, sign apart. -/
def specialText (x : Float) (upper : Bool) : List Char :=
  match x == x, upper with
  | true, true => ['I', 'N', 'F']
  | true, false => ['i', 'n', 'f']
  | false, true => ['N', 'A', 'N']
  | false, false => ['n', 'a', 'n']

/-- Lay out a double. -/
def Format.float (f : Format) (x : Float) (typeName : String) : Except Failure String := do
  let t := f.type
  let percent := t == some '%'
  let x := if percent then x * 100 else x
  let upper := t == some 'E' || t == some 'F' || t == some 'G'
  let style : FloatStyle ← match t with
    | some 'e' | some 'E' => pure .exponent
    | some 'f' | some 'F' | some '%' => pure .places
    | some 'g' | some 'G' | some 'n' => pure .general
    | none => pure (if f.precision.isSome then .general else .shortest)
    | some c => unknownType c typeName
  let precision := match f.precision with
    | some p => p
    | none => 6
  if precision > 2147483647 then badFormat "precision too big"
  let (negative, whole, rest) : Bool × List Char × List Char := match parts x with
    | .finite negative m e =>
      let (a, b) := magnitudeText style precision f.alternate t.isNone m e
      let b := if upper then b.map Char.toUpper else b
      let zero := (a ++ b.takeWhile (fun c => c != 'e' && c != 'E')).all fun c => c == '0' || c == '.'
      (negative && !(f.positiveZero && zero), a, b)
    | .infinite negative => (negative, [], specialText x upper)
    | .nan => (false, [], specialText x upper)
  let rest := if percent then rest ++ ['%'] else rest
  -- There are no digits to group in the name of an infinity.
  let f := if whole.isEmpty then { f with group := none } else f
  pure (String.ofList (f.number negative [] whole rest 3))

/-- Lay out an integer. -/
def Format.integer (f : Format) (i : Int) (typeName : String) : Except Failure String := do
  let t := f.type.getD 'd'
  if "eEfFgG%".toList.contains t then
    let x := ofInt i
    if !isFinite x then .error (.fault .overflow "int too large to convert to float")
    f.float x typeName
  else if !"bcdoxXn".toList.contains t then unknownType t typeName
  else
    if f.precision.isSome then badFormat "Precision not allowed in integer format specifier"
    if f.positiveZero then
      badFormat "Negative zero coercion (z) not allowed in format specifier with integer presentation type"
    if t == 'c' then
      if f.sign.isSome then badFormat "Sign not allowed with integer format specifier 'c'"
      if f.alternate then
        badFormat "Alternate form (#) not allowed with integer format specifier 'c'"
      if i < 0 || i > 0x10ffff then .error (.fault .overflow "%c arg not in range(0x110000)")
      pure (String.ofList (f.number false [] [] [Char.ofNat i.toNat] 3))
    else
      let base : Nat := match t with
        | 'b' => 2
        | 'o' => 8
        | 'x' | 'X' => 16
        | _ => 10
      let digits ←
        if base == 10 then do
          let s ← integerText (i.natAbs : Int)
          pure s.toList
        else pure (digitsIn base i.natAbs)
      let digits := if t == 'X' then digits.map Char.toUpper else digits
      let mark := if f.alternate && base != 10 then ['0', t] else []
      pure (String.ofList
        (f.number (i < 0) mark digits [] (if base == 10 then 3 else 4)))

/-- Lay out a value by a format that is not empty. -/
def formatBy (spec : List Char) (v : Value) : Act String := do
  match v with
  | .str s => ofExcept (formatText spec s)
  | .bool b => ofExcept do
    (← Format.read "bool" true (some 'd') spec).integer (if b then 1 else 0) "bool"
  | .int i => ofExcept do (← Format.read "int" true (some 'd') spec).integer i "int"
  | .float x => ofExcept do (← Format.read "float" true none spec).float x "float"
  | _ => typeError ("unsupported format string passed to " ++ v.typeName ++ ".__format__")

/-- Lay out a value; the empty format gives its plain text. -/
def formatValue (spec : List Char) (v : Value) : Act String :=
  if spec.isEmpty then plainText v else formatBy spec v

end Stencil.Expr
