import Stencil.Expr.Value
import Stencil.Number.Binary64
/-!
# Stencil.Expr.Hash -- where keys are looked for

Sets look for a key where its hash leads. Equal keys have equal hashes: whole numbers hash to their
remainder by a prime, and all other numbers as if they were whole numbers modulo that prime. Texts
hash by SipHash-1-3. What is only equal to itself hashes by where it is kept, which no program can
tell; its name, or the address of its cell, stands for that here.

Nothing depends on these hashes but the order in which sets are run through, and a machine may have
others.
-/

namespace Stencil.Expr

open Stencil.Number

/-! ## Numbers -/

/-- The prime by which numbers are reduced. -/
def hashPrime : Nat := Nat.pow 2 61 - 1

/-- A hash is never the greatest number, which stands for a fault. -/
def sound (h : UInt64) : UInt64 := if h == UInt64.ofInt (-1) then UInt64.ofInt (-2) else h

/-- The hash of a number of which the magnitude, reduced by the prime, is known. -/
def signedHash (negative : Bool) (magnitude : Nat) : UInt64 :=
  sound (UInt64.ofInt (if negative then -(magnitude : Int) else magnitude))

/-- The hash of a whole number. -/
def wholeHash (i : Int) : UInt64 := signedHash (i < 0) (i.natAbs % hashPrime)

/-- The hash of a double. -/
def doubleHash (bits : UInt64) : UInt64 :=
  match parts (Float.ofBits bits) with
  | .nan => 0
  | .infinite negative => signedHash negative 314159
  -- Two is invertible modulo the prime, and its powers repeat every sixty-one steps.
  | .finite negative m e => signedHash negative (m * Nat.pow 2 (e % 61).toNat % hashPrime)

/-! ## Texts -/

/-- The state of SipHash. -/
structure Sip where
  v0 : UInt64 := 0x736f6d6570736575
  v1 : UInt64 := 0x646f72616e646f6d
  v2 : UInt64 := 0x6c7967656e657261
  v3 : UInt64 := 0x7465646279746573

namespace Sip

/-- Turn the bits of a word to the left. -/
def rotate (x : UInt64) (n : UInt64) : UInt64 := (x <<< n) ||| (x >>> (64 - n))

/-- A round. -/
def round (s : Sip) : Sip :=
  let v0 := s.v0 + s.v1
  let v2 := s.v2 + s.v3
  let v1 := rotate s.v1 13 ^^^ v0
  let v3 := rotate s.v3 16 ^^^ v2
  let v0 := rotate v0 32
  let v2 := v2 + v1
  let v0 := v0 + v3
  let v1 := rotate v1 17 ^^^ v2
  let v3 := rotate v3 21 ^^^ v0
  ⟨v0, v1, rotate v2 32, v3⟩

/-- Take up a word. -/
def absorb (s : Sip) (w : UInt64) : Sip :=
  let s := { s with v3 := s.v3 ^^^ w }.round
  { s with v0 := s.v0 ^^^ w }

/-- The word of at most eight bytes, the lowest first. -/
def word (b : List UInt8) : UInt64 := b.foldr (fun x w => (w <<< 8) ||| x.toUInt64) 0

/-- Take up bytes, eight at a time. The last word also tells how many there are. -/
def absorbAll (size : UInt64) (s : Sip) : List UInt8 → Sip
  | b0 :: b1 :: b2 :: b3 :: b4 :: b5 :: b6 :: b7 :: r =>
    absorbAll size (s.absorb (word [b0, b1, b2, b3, b4, b5, b6, b7])) r
  | r => s.absorb (size <<< 56 ||| word r)

/-- The hash of a state that has taken up everything. -/
def finish (s : Sip) : UInt64 :=
  let s := { s with v2 := s.v2 ^^^ 0xff }.round.round.round
  s.v0 ^^^ s.v1 ^^^ s.v2 ^^^ s.v3

end Sip

/-- The hash of bytes. -/
def bytesHash (b : List UInt8) : UInt64 :=
  if b.isEmpty then 0 else sound (({} : Sip).absorbAll b.length.toUInt64 b).finish

/-- The bytes of a character in a text whose widest character takes a number of bytes. -/
def unitBytes (width : Nat) (c : Char) : List UInt8 :=
  (List.range width).map fun i => UInt8.ofNat (c.toNat / Nat.pow 256 i)

/-- The hash of a text: that of its characters, all in the width of the widest. -/
def textHash (s : String) : UInt64 :=
  let cs := s.toList
  let width := if cs.all (·.toNat < 0x100) then 1 else if cs.all (·.toNat < 0x10000) then 2 else 4
  bytesHash (cs.flatMap (unitBytes width))

/-! ## Several hashes -/

/-- The hash of a tuple, of which the items have the hashes given. -/
def tupleHash (hs : List UInt64) : UInt64 :=
  let start : UInt64 := 2870177450012600261
  let total := hs.foldl (fun acc h =>
    Sip.rotate (acc + h * 14029467366897019727) 31 * 11400714785074694791) start
  let total := total + (hs.length.toUInt64 ^^^ start ^^^ 3527539)
  if total == UInt64.ofInt (-1) then 1546275796 else total

/-! ## Keys -/

mutual

/-- The hash of a key. -/
def Key.hash : Key → UInt64
  | .none => textHash "None"
  | .ellipsis => textHash "Ellipsis"
  | .whole i => wholeHash i
  | .fraction bits => doubleHash bits
  | .complex re im => sound (doubleHash re + 1000003 * doubleHash im)
  | .str s => textHash s
  | .bytes b => bytesHash b
  | .tuple ks => tupleHash (hashes ks)
  | .emptyRange => tupleHash [wholeHash 0, textHash "None", textHash "None"]
  | .oneRange start => tupleHash [wholeHash 1, wholeHash start, textHash "None"]
  | .longRange start step count => tupleHash [wholeHash count, wholeHash start, wholeHash step]
  | .type t => textHash t.name
  | .function f => textHash f.name
  | .bound self name => self.hash ^^^ textHash name
  | .unbound t name => textHash t.name ^^^ textHash name
  | .cell r => 16 * r.toUInt64

/-- The hashes of several keys. -/
def hashes : List Key → List UInt64
  | [] => []
  | k :: ks => k.hash :: hashes ks

end

end Stencil.Expr
