import Stencil.Text.Encoding
/-!
# Stencil.Text.Punycode -- texts as letters, digits and hyphens

Punycode writes the ASCII characters of a text first, a hyphen behind them, and then, as numbers in
letters and digits, how to insert the others. So what it writes for a text depends on the whole of
it, and the parts of a text that are written one by one do not make up what is written for the whole.
-/

namespace Stencil.Text.Punycode

/-! ## Numbers -/

/-- From which digit on another one follows. -/
def threshold (j bias : Nat) : Nat := max 1 (min 26 (36 * (j + 1) - bias))

/-- A digit. -/
def digit (n : Nat) : UInt8 := if n < 26 then UInt8.ofNat (97 + n) else UInt8.ofNat (22 + n)

/-- The digits of a number, from place `j` on. -/
def digits (bias j n : Nat) : List UInt8 :=
  let t := threshold j bias
  if n < t then [digit n]
  else digit (t + (n - t) % (36 - t)) :: digits bias (j + 1) ((n - t) / (36 - t))
termination_by n
decreasing_by
  have ht : 1 ≤ threshold j bias := Nat.le_max_left ..
  have hdiv := Nat.div_le_self (n - threshold j bias) (36 - threshold j bias)
  omega

/-- How often a difference is divided until it is small, counted in steps of thirty-six, and what is
left of it. -/
def divided (steps delta : Nat) : Nat × Nat :=
  if delta ≤ 455 then (steps, delta) else divided (steps + 36) (delta / 35)
termination_by delta
decreasing_by omega

/-- The bias after a number. -/
def adapted (delta : Nat) (first : Bool) (count : Nat) : Nat :=
  let delta := if first then delta / 700 else delta / 2
  let (steps, rest) := divided 0 (delta + delta / count)
  steps + 36 * rest / (rest + 38)

/-! ## Writing -/

/-- For each place of a character, how many characters up to it come before. -/
def ranks (c : Char) (seen : Nat) : List Char → List Nat
  | [] => []
  | d :: r =>
    if d == c then seen :: ranks c (seen + 1) r
    else ranks c (if d.toNat < c.toNat then seen + 1 else seen) r

/-- The steps from one place to the next, of which the first is `delta` longer, and the last place. -/
def strides (delta last : Int) : List Nat → List Nat × Int
  | [] => ([], last)
  | i :: is =>
    let (rest, final) := strides 0 i is
    ((delta + i - last - 1).toNat :: rest, final)

/-- The numbers that tell how to insert characters, which come in their order, into the others. -/
def deltas (s : List Char) (old : Nat) (last : Int) : List Char → List Nat
  | [] => []
  | c :: cs =>
    let lower := (s.filter (·.toNat < c.toNat)).length
    let (here, last) := strides ((lower + 1) * (c.toNat - old)) last (ranks c 0 s)
    here ++ deltas s c.toNat last cs

/-- Numbers in digits, `count` characters standing there before. -/
def numbers (count bias : Nat) (first : Bool) : List Nat → List UInt8
  | [] => []
  | n :: ns =>
    digits bias 0 n ++ numbers (count + 1) (adapted n first (count + 1)) false ns

/-- The bytes of a text. -/
def encode (s : List Char) : List UInt8 :=
  let base := s.filter (·.toNat < 128)
  let others := ((s.filter (128 ≤ ·.toNat)).eraseDups).mergeSort (·.toNat ≤ ·.toNat)
  let inserted := numbers base.length 72 true (deltas s 128 (-1) others)
  if base.isEmpty then inserted else base.map (UInt8.ofNat ·.toNat) ++ 45 :: inserted

/-! ## Reading -/

/-- The failure to read a text. -/
def fault {α : Type} (message : String) : Except Failure α := .error (.fault .badCoding message)

/-- The value of a digit. -/
def digitValue? (c : Char) : Option Nat :=
  if 65 ≤ c.toNat && c.toNat ≤ 90 then some (c.toNat - 65)
  else if 48 ≤ c.toNat && c.toNat ≤ 57 then some (c.toNat - 22)
  else none

/-- Read a number, and what stands behind it. -/
def number (bias j value weight : Nat) : List Char → Except Failure (Nat × List Char)
  | [] => fault "incomplete punicode string"
  | c :: r =>
    match digitValue? c with
    | none => fault ("Invalid extended code point '" ++ String.singleton c ++ "'")
    | some d =>
      let t := threshold j bias
      if d < t then .ok (value + d * weight, r)
      else number bias (j + 1) (value + d * weight) (weight * (36 - t)) r

/-- Insert characters as the digits tell, at most `fuel` of them. Unless faults are `strict`, reading
ends where it cannot go on, and a question mark stands for what is no character. -/
def insert (strict : Bool) : Nat → List Char → (char pos bias : Nat) → (first : Bool) → List Char →
    Except Failure (List Char)
  | 0, base, _, _, _, _, _ => .ok base
  | _ + 1, base, _, _, _, _, [] => .ok base
  | fuel + 1, base, char, pos, bias, first, ds =>
    match number bias 0 0 1 ds with
    | .error f => if strict then .error f else .ok base
    | .ok (delta, rest) =>
      -- Places are counted from the last one on, through the text and then the next character.
      let pos := pos + delta
      let char := char + pos / (base.length + 1)
      if char > 0x10ffff && strict then
        fault ("Invalid character U+" ++ String.ofList (Nat.toDigits 16 char))
      else
        let char := if char > 0x10ffff then '?'.toNat else char
        let pos := pos % (base.length + 1)
        let base := base.take pos ++ Char.ofNat char :: base.drop pos
        insert strict fuel base char (pos + 1) (adapted delta first base.length) false rest

/-- The text of bytes. -/
def decode (treatment : String) (b : List UInt8) : Except Failure (List Char) := do
  let cut := (b.reverse.idxOf? 45).map fun i => b.length - 1 - i
  let base ← match cut with
    | none => pure []
    | some i =>
      match treatment with
      | "replace" => pure (Encoding.ascii.decodeMending (fun _ => ['\ufffd']) (b.take i))
      | "ignore" => pure (Encoding.ascii.decodeMending (fun _ => []) (b.take i))
      | _ => decodeAscii (b.take i)
  let inserted ← decodeAscii (b.drop ((cut.map (· + 1)).getD 0))
  insert (treatment == "strict") inserted.length base 128 0 72 true (inserted.map Char.toUpper)

/-- The text of a file, of which each block is read for itself. At most `n` blocks are read. -/
def decodeBlocks : Nat → List UInt8 → Except Failure (List Char)
  | 0, _ => .ok []
  | _ + 1, [] => .ok []
  | n + 1, b => do return (← decode "strict" (b.take blockSize)) ++
      (← decodeBlocks n (b.drop blockSize))

end Stencil.Text.Punycode
