import Stencil.Expr.Collection
import Stencil.Number.Fixed
/-!
# Stencil.Expr.Percent -- placeholders filled from values

A text with placeholders, each a percent sign with flags, width, precision and a letter, is filled
from the items of a tuple, from a single value, or by key from a dictionary. Every value has to be
used and every placeholder needs one.
-/

namespace Stencil.Expr

open Stencil.Number

/-- The flags, width and precision of a placeholder. -/
structure Placeholder where
  left : Bool := false
  plus : Bool := false
  blank : Bool := false
  alternate : Bool := false
  zero : Bool := false
  width : Nat := 0
  precision : Option Nat := none

/-- Where values come from. -/
structure Supply where
  /-- The values still to be used, in order. -/
  rest : List Value
  /-- The value that keys are looked up in. -/
  mapping : Option Value

/-- The next value. -/
def Supply.take (s : Supply) : Act (Value × Supply) :=
  match s.rest with
  | v :: vs => pure (v, { s with rest := vs })
  | [] => typeError "not enough arguments for format string"

/-- Read flags. -/
def readFlags (p : Placeholder) : List Char → Placeholder × List Char
  | '-' :: r => readFlags { p with left := true } r
  | '+' :: r => readFlags { p with plus := true } r
  | ' ' :: r => readFlags { p with blank := true } r
  | '#' :: r => readFlags { p with alternate := true } r
  | '0' :: r => readFlags { p with zero := true } r
  | s => (p, s)

/-- Read ASCII digits. -/
def readDecimal (s : List Char) : Nat × List Char :=
  let ds := s.takeWhile Char.isDigit
  (ds.foldl (fun n c => n * 10 + (c.toNat - 48)) 0, s.drop ds.length)

/-- Read a key up to the parenthesis that closes it. -/
def readKey (depth : Nat) (cur : List Char) : List Char → Option (List Char × List Char)
  | [] => none
  | ')' :: r => if depth == 0 then some (cur.reverse, r) else readKey (depth - 1) (')' :: cur) r
  | '(' :: r => readKey (depth + 1) ('(' :: cur) r
  | c :: r => readKey depth (c :: cur) r

/-- The value of a width or precision given as a star. -/
def starCount (v : Value) : Act Int :=
  match v with
  | .int i => pure i
  | .bool b => pure (if b then 1 else 0)
  | _ => typeError "* wants int"

/-- Lay out a number whose sign and base mark have been split off. -/
def Placeholder.number (p : Placeholder) (negative : Bool) (mark digits : List Char) : List Char :=
  let sign : List Char :=
    if negative then ['-'] else if p.plus then ['+'] else if p.blank then [' '] else []
  let missing := p.width - (sign.length + mark.length + digits.length)
  if p.left then sign ++ mark ++ digits ++ List.replicate missing ' '
  else if p.zero then sign ++ mark ++ List.replicate missing '0' ++ digits
  else List.replicate missing ' ' ++ sign ++ mark ++ digits

/-- Lay out a text. -/
def Placeholder.text (p : Placeholder) (s : List Char) : List Char :=
  let s := match p.precision with
    | some n => s.take n
    | none => s
  let missing := List.replicate (p.width - s.length) ' '
  if p.left then s ++ missing else missing ++ s

/-- The integer that a value stands for in a placeholder for integers. -/
def integerFor (letter : Char) (v : Value) : Act Int := do
  let byIndex := letter == 'o' || letter == 'x' || letter == 'X'
  let wanted := if byIndex then "an integer" else "a real number"
  let wrong : Act Int :=
    typeError ("%" ++ String.singleton letter ++ " format: " ++ wanted ++ " is required, not " ++
      v.typeName)
  match v with
  | .int i => return i
  | .bool b => return if b then 1 else 0
  | .float x =>
    if byIndex then wrong
    else match truncate? x with
      | some i => return i
      | none =>
        -- Only a NaN differs from itself.
        if x == x then fault .overflow "cannot convert float infinity to integer"
        else valueError "cannot convert float NaN to integer"
  | _ => wrong

/-- Fill a placeholder for integers. -/
def Placeholder.integer (p : Placeholder) (letter : Char) (v : Value) : Act (List Char) := do
  let i ← integerFor letter v
  let digits ← match letter with
    | 'o' => pure (digitsIn 8 i.natAbs)
    | 'x' => pure (digitsIn 16 i.natAbs)
    | 'X' => pure ((digitsIn 16 i.natAbs).map Char.toUpper)
    | _ => do pure (← ofExcept (integerText (i.natAbs : Int))).toList
  let digits := List.replicate (p.precision.getD 0 - digits.length) '0' ++ digits
  let mark := if p.alternate && "oxX".toList.contains letter then ['0', letter] else []
  return p.number (i < 0) mark digits

/-- The double that a value stands for. -/
def doubleFor (v : Value) : Act Float := do
  match v with
  | .float x => return x
  | .int i =>
    let x := ofInt i
    if isFinite x then return x else fault .overflow "int too large to convert to float"
  | .bool b => return if b then 1 else 0
  | _ => typeError ("must be real number, not " ++ v.typeName)

/-- Fill a placeholder for doubles. -/
def Placeholder.double (p : Placeholder) (letter : Char) (v : Value) : Act (List Char) := do
  let x ← doubleFor v
  let upper := letter.isUpper
  let style : FloatStyle := match letter.toLower with
    | 'e' => .exponent
    | 'f' => .places
    | _ => .general
  match parts x with
  | .finite negative m e =>
    let (a, b) := magnitudeText style (p.precision.getD 6) p.alternate false m e
    let b := if upper then b.map Char.toUpper else b
    return p.number negative [] (a ++ b)
  | .infinite negative => return p.number negative [] (if upper then "INF" else "inf").toList
  | .nan => return p.number false [] (if upper then "NAN" else "nan").toList

/-- Fill a placeholder for one character. -/
def Placeholder.char (p : Placeholder) (v : Value) : Act (List Char) := do
  match v with
  | .str s =>
    -- A precision would cut the character off.
    if s.length == 1 then return ({ p with precision := none }).text s.toList
    else typeError "%c requires int or char"
  | _ =>
    match v.int? with
    | some i =>
      if i < 0 || i > 0x10ffff then fault .overflow "%c arg not in range(0x110000)"
      else return ({ p with precision := none }).text [Char.ofNat i.toNat]
    | none => typeError "%c requires int or char"

/-- Escape the characters outside ASCII in a quoted text. -/
def escapeWide (s : List Char) : List Char :=
  s.flatMap fun c => if c.toNat < 128 then [c] else escape c
where
  /-- The escape of a character outside ASCII. -/
  escape (c : Char) : List Char :=
    let n := c.toNat
    if n < 0x100 then '\\' :: 'x' :: Text.hexPadded n 2
    else if n < 0x10000 then '\\' :: 'u' :: Text.hexPadded n 4
    else '\\' :: 'U' :: Text.hexPadded n 8

/-- Fill a placeholder. `index` is the position of its letter. -/
def Placeholder.fill (p : Placeholder) (letter : Char) (index : Nat) (v : Value) :
    Act (List Char) := do
  match letter with
  | 's' => return p.text (← plainText v).toList
  | 'r' => return p.text (← quotedValue v).toList
  | 'a' => return p.text (escapeWide (← quotedValue v).toList)
  | 'd' | 'i' | 'u' | 'o' | 'x' | 'X' => p.integer letter v
  | 'e' | 'E' | 'f' | 'F' | 'g' | 'G' => p.double letter v
  | 'c' => p.char v
  | _ =>
    let shown := if 31 < letter.toNat && letter.toNat < 127 then letter else '?'
    valueError ("unsupported format character '" ++ String.singleton shown ++ "' (0x" ++
      String.ofList (Nat.toDigits 16 letter.toNat) ++ ") at index " ++ toString index)

/-- Read the width of a placeholder. -/
def readWidth (p : Placeholder) (s : List Char) (supply : Supply) :
    Act (Placeholder × List Char × Supply) := do
  match s with
  | '*' :: r => do
    let (v, supply) ← supply.take
    let n ← starCount v
    return ({ p with left := p.left || n < 0, width := n.natAbs }, r, supply)
  | _ =>
    let (n, r) := readDecimal s
    if n > 9223372036854775807 then valueError "width too big"
    return ({ p with width := n }, r, supply)

/-- Read the precision of a placeholder. -/
def readPrecision (p : Placeholder) (s : List Char) (supply : Supply) :
    Act (Placeholder × List Char × Supply) := do
  match s with
  | '.' :: '*' :: r => do
    let (v, supply) ← supply.take
    let n ← starCount v
    return ({ p with precision := some n.toNat }, r, supply)
  | '.' :: r =>
    let (n, r) := readDecimal r
    if n > 2147483647 then valueError "precision too big"
    return ({ p with precision := some n }, r, supply)
  | _ => return (p, s, supply)

/-- What a mapping holds under the key of a placeholder. -/
def lookUp (mapping : Value) (key : String) : Act Value := do
  match mapping with
  | .dict r =>
    match ← dictGet? r (.str key) with
    | some v => return v
    | none => keyMissing (.str key)
  | .list _ => typeError "list indices must be integers or slices, not str"
  | .range .. => typeError "range indices must be integers or slices, not str"
  | _ => typeError (mapping.typeName ++ " indices must be integers or slices, not str")

/-- Fill the placeholders of a text. `total` is the length of the whole text. -/
def fillFrom (total : Nat) : Nat → List Char → Supply → Act (List Char × Supply)
  | 0, _, supply => return ([], supply)
  | _ + 1, [], supply => return ([], supply)
  | fuel + 1, '%' :: s, supply => do
    let (s, supply) ← match s with
      | '(' :: r => do
        match supply.mapping with
        | none => typeError "format requires a mapping"
        | some m =>
          match readKey 0 [] r with
          | none => valueError "incomplete format key"
          | some (key, r) =>
            let v ← lookUp m (String.ofList key)
            pure (r, { supply with rest := [v] })
      | _ => pure (s, supply)
    let (p, s) := readFlags {} s
    let (p, s, supply) ← readWidth p s supply
    let (p, s, supply) ← readPrecision p s supply
    let s := match s with
      | c :: r => if c == 'h' || c == 'l' || c == 'L' then r else s
      | [] => s
    match s with
    | [] => valueError "incomplete format"
    | '%' :: r => do
      let (out, supply) ← fillFrom total fuel r supply
      return ('%' :: out, supply)
    | letter :: r => do
      let (v, supply) ← supply.take
      let piece ← p.fill letter (total - r.length - 1) v
      let (out, supply) ← fillFrom total fuel r supply
      return (piece ++ out, supply)
  | fuel + 1, c :: s, supply => do
    let (out, supply) ← fillFrom total fuel s supply
    return (c :: out, supply)

/-- Fill the placeholders of a text from a value. -/
def fillPlaceholders (s : String) (v : Value) : Act String := do
  let supply : Supply := match v with
    | .tuple items => ⟨items, none⟩
    | .dict _ | .list _ | .range .. | .bytes _ => ⟨[v], some v⟩
    | _ => ⟨[v], none⟩
  let cs := s.toList
  let (out, left) ← fillFrom cs.length (cs.length + 1) cs supply
  if !left.rest.isEmpty && left.mapping.isNone then
    typeError "not all arguments converted during string formatting"
  return String.ofList out

end Stencil.Expr
