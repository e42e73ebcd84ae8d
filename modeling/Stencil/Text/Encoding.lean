import Stencil.Failure
import Stencil.Text.Letter
/-!
# Stencil.Text.Encoding -- texts as bytes

Four encodings of text: UTF-8, UTF-8 behind a byte order mark, Latin-1 and ASCII, each known under
many names. Encoding and decoding fail at the first place where they cannot go on, and the fault
says where and why; what was encoded before that place is kept.
-/

namespace Stencil.Text

/-- An encoding. -/
inductive Encoding where
  | utf8 | utf8Marked | latin1 | ascii
  deriving DecidableEq, Repr

/-- The name of an encoding in faults. -/
def Encoding.name : Encoding → String
  | utf8 | utf8Marked => "utf-8"
  | latin1 => "latin-1"
  | ascii => "ascii"

/-! ## Names -/

/-- The names of each encoding, in lower case with underscores between words. -/
def encodingNames : List (Encoding × List String) :=
  [(.utf8, ["utf_8", "u8", "utf", "utf8", "utf8_ucs2", "utf8_ucs4", "cp65001"]),
   (.utf8Marked, ["utf_8_sig"]),
   (.latin1, ["latin_1", "8859", "cp819", "csisolatin1", "ibm819", "iso8859", "iso8859_1",
     "iso_8859_1", "iso_8859_1_1987", "iso_ir_100", "l1", "latin", "latin1"]),
   (.ascii, ["ascii", "646", "ansi_x3.4_1968", "ansi_x3_4_1968", "ansi_x3.4_1986", "cp367",
     "csascii", "ibm367", "iso646_us", "iso_646.irv_1991", "iso_ir_6", "us", "us_ascii"])]

/-- A name in lower case, every run of characters that are no letters, digits or points made one
underscore. `gap` tells that such a run is being read. -/
def plainName (gap : Bool) (started : Bool) : List Char → List Char
  | [] => []
  | c :: r =>
    if c.isAlphanum || c == '.' then
      (if gap && started then ['_'] else []) ++ c.toLower :: plainName false true r
    else plainName true started r

/-- The encoding known under a name. -/
def Encoding.ofName? (name : String) : Option Encoding :=
  let plain := String.ofList (plainName false false name.toList)
  (encodingNames.find? fun e => e.2.contains plain).map (·.1)

/-! ## Encoding -/

/-- The bytes of a character in UTF-8. -/
def utf8Bytes (c : Char) : List UInt8 :=
  let n := c.toNat
  let tail (k : Nat) : UInt8 := UInt8.ofNat (0x80 + n / k % 64)
  if n < 0x80 then [UInt8.ofNat n]
  else if n < 0x800 then [UInt8.ofNat (0xc0 + n / 64), tail 1]
  else if n < 0x10000 then [UInt8.ofNat (0xe0 + n / 4096), tail 64, tail 1]
  else [UInt8.ofNat (0xf0 + n / 262144), tail 4096, tail 64, tail 1]

/-- The first code point an encoding cannot write. -/
def Encoding.bound : Encoding → Nat
  | utf8 | utf8Marked => 0x110000
  | latin1 => 256
  | ascii => 128

/-- Whether an encoding can write a character. -/
def Encoding.writes (e : Encoding) (c : Char) : Bool := c.toNat < e.bound

/-- The bytes of a character that an encoding can write. -/
def Encoding.bytes (e : Encoding) (c : Char) : List UInt8 :=
  match e with
  | utf8 | utf8Marked => utf8Bytes c
  | latin1 | ascii => [UInt8.ofNat c.toNat]

/-- The bytes that stand before the first text. -/
def Encoding.mark : Encoding → List UInt8
  | utf8Marked => [0xef, 0xbb, 0xbf]
  | _ => []

/-- The escape of a character in a fault. -/
def escapeForFault (c : Char) : String :=
  let n := c.toNat
  String.ofList <|
    if n < 0x100 then '\\' :: 'x' :: hex n 2
    else if n < 0x10000 then '\\' :: 'u' :: hex n 4
    else '\\' :: 'U' :: hex n 8
where
  /-- Hexadecimal digits, padded with zeros. -/
  hex (n width : Nat) : List Char :=
    let ds := Nat.toDigits 16 n
    List.replicate (width - ds.length) '0' ++ ds

/-- The fault of characters that cannot be written: those from position `start`, `count` of them,
the first of which is `c`. -/
def cannotWrite (e : Encoding) (c : Char) (start count : Nat) : Failure :=
  let place :=
    if count ≤ 1 then "character '" ++ escapeForFault c ++ "' in position " ++ toString start
    else "characters in position " ++ toString start ++ "-" ++ toString (start + count - 1)
  .fault .badEncoding ("'" ++ e.name ++ "' codec can't encode " ++ place ++
    ": ordinal not in range(" ++ toString e.bound ++ ")")

/-- Encode a text. -/
def Encoding.encode (e : Encoding) (s : List Char) : Except Failure (List UInt8) :=
  match s.findIdx? (!e.writes ·) with
  | none => .ok (s.flatMap e.bytes)
  | some i =>
    let rest := s.drop i
    let bad := rest.takeWhile (!e.writes ·)
    .error (cannotWrite e (rest.headD ' ') i bad.length)

/-! ## Decoding -/

/-- Why bytes are not UTF-8. -/
inductive Utf8Fault where
  | start | continuation | ended
  deriving DecidableEq, Repr

/-- The wording of a UTF-8 fault. -/
def Utf8Fault.message : Utf8Fault → String
  | start => "invalid start byte"
  | continuation => "invalid continuation byte"
  | ended => "unexpected end of data"

/-- The fault of bytes that cannot be read: `count` of them from position `start` on. -/
def cannotRead (codec : String) (b : UInt8) (start count : Nat) (why : String) : Failure :=
  let place :=
    if count ≤ 1 then
      let ds := Nat.toDigits 16 b.toNat
      "byte 0x" ++ (if ds.length < 2 then "0" else "") ++ String.ofList ds ++ " in position " ++
        toString start
    else "bytes in position " ++ toString start ++ "-" ++ toString (start + count - 1)
  .fault .badDecoding ("'" ++ codec ++ "' codec can't decode " ++ place ++ ": " ++ why)

/-- How many bytes follow a first byte, and the range in which the first of them lies. -/
def utf8Shape (b : Nat) : Option (Nat × Nat × Nat) :=
  if 0xc2 ≤ b && b ≤ 0xdf then some (1, 0x80, 0xbf)
  else if b == 0xe0 then some (2, 0xa0, 0xbf)
  else if b == 0xed then some (2, 0x80, 0x9f)
  else if 0xe1 ≤ b && b ≤ 0xef then some (2, 0x80, 0xbf)
  else if b == 0xf0 then some (3, 0x90, 0xbf)
  else if 0xf1 ≤ b && b ≤ 0xf3 then some (3, 0x80, 0xbf)
  else if b == 0xf4 then some (3, 0x80, 0x8f)
  else none

/-- Read the bytes that continue a character: the code point and the rest, or why not and how many
bytes are to blame. -/
def utf8Tail (value seen need lo hi : Nat) :
    List UInt8 → Except (Utf8Fault × Nat) (Nat × List UInt8)
  | r =>
    match need, r with
    | 0, r => .ok (value, r)
    | _ + 1, [] => .error (.ended, seen)
    | need + 1, b :: r =>
      if lo ≤ b.toNat && b.toNat ≤ hi then
        utf8Tail (value * 64 + b.toNat % 64) (seen + 1) need 0x80 0xbf r
      else .error (.continuation, seen)

theorem utf8Tail_length {value seen need lo hi : Nat} {r : List UInt8} {v : Nat} {rest : List UInt8}
    (h : utf8Tail value seen need lo hi r = .ok (v, rest)) : rest.length ≤ r.length := by
  induction need generalizing value seen lo hi r with
  | zero =>
    simp only [utf8Tail, Except.ok.injEq, Prod.mk.injEq] at h
    exact h.2 ▸ Nat.le_refl _
  | succ n ih =>
    cases r with
    | nil => simp [utf8Tail] at h
    | cons b r =>
      unfold utf8Tail at h
      simp only at h
      split at h
      · exact Nat.le_trans (ih h) (Nat.le_succ _)
      · cases h

/-- Bytes that are not UTF-8: the first of them, its position, how many they are, and why. -/
structure BadUtf8 where
  byte : UInt8
  start : Nat
  count : Nat
  why : Utf8Fault
  deriving DecidableEq, Repr

/-- The failure of bytes that are not UTF-8. -/
def BadUtf8.failure (b : BadUtf8) : Failure :=
  cannotRead "utf-8" b.byte b.start b.count b.why.message

/-- Decode UTF-8 from position `i` on. -/
def decodeUtf8From (i : Nat) (acc : List Char) (s : List UInt8) : Except BadUtf8 (List Char) :=
  match s with
  | [] => .ok acc.reverse
  | b :: r =>
    if b.toNat < 0x80 then decodeUtf8From (i + 1) (Char.ofNat b.toNat :: acc) r
    else
      match utf8Shape b.toNat with
      | none => .error ⟨b, i, 1, .start⟩
      -- The first byte keeps the fewer bits the more bytes follow it.
      | some (need, lo, hi) =>
        let first := if need == 1 then b.toNat % 32 else if need == 2 then b.toNat % 16 else b.toNat % 8
        match _ : utf8Tail first 1 need lo hi r with
        | .error (why, count) => .error ⟨b, i, count, why⟩
        | .ok (n, rest) => decodeUtf8From (i + 1 + need) (Char.ofNat n :: acc) rest
termination_by s.length
decreasing_by
  · simp
  · have := utf8Tail_length (by assumption)
    simp only [List.length_cons]
    omega

/-- Decode UTF-8. -/
def decodeUtf8 (s : List UInt8) : Except BadUtf8 (List Char) := decodeUtf8From 0 [] s

/-- The failure of a byte that is not ASCII. -/
def notAscii (b : UInt8) (position : Nat) : Failure :=
  cannotRead "ascii" b position 1 "ordinal not in range(128)"

/-- Decode ASCII. -/
def decodeAscii (s : List UInt8) : Except Failure (List Char) :=
  match s.findIdx? (128 ≤ ·.toNat) with
  | none => .ok (s.map fun b => Char.ofNat b.toNat)
  | some i => .error (notAscii (s.getD i 0) i)

/-- Bytes without the mark that may stand before them. -/
def dropMark (s : List UInt8) : List UInt8 :=
  match s with
  | 0xef :: 0xbb :: 0xbf :: r => r
  | _ => s

/-- Decode a text. -/
def Encoding.decode (e : Encoding) (s : List UInt8) : Except Failure (List Char) :=
  match e with
  | utf8 => (decodeUtf8 s).mapError BadUtf8.failure
  | utf8Marked => (decodeUtf8 (dropMark s)).mapError BadUtf8.failure
  | latin1 => .ok (s.map fun b => Char.ofNat b.toNat)
  | ascii => decodeAscii s

/-- Decode UTF-8 with other characters for the bytes of each place that cannot be read, at most `n`
places. -/
def decodeUtf8Mending (mend : List UInt8 → List Char) : Nat → List UInt8 → List Char
  | 0, _ => []
  | n + 1, s =>
    match decodeUtf8 s with
    | .ok cs => cs
    | .error b =>
      -- What stands before the fault is known to be sound.
      let before := ((decodeUtf8 (s.take b.start)).toOption).getD []
      let r := s.drop b.start
      before ++ mend (r.take b.count) ++ decodeUtf8Mending mend n (r.drop b.count)

/-- Decode a text with other characters for the bytes of each place that cannot be read. -/
def Encoding.decodeMending (e : Encoding) (mend : List UInt8 → List Char) (s : List UInt8) :
    List Char :=
  match e with
  | utf8 => decodeUtf8Mending mend (s.length + 1) s
  | utf8Marked => decodeUtf8Mending mend (s.length + 1) (dropMark s)
  | latin1 => s.map fun b => Char.ofNat b.toNat
  | ascii => s.flatMap fun b => if b.toNat < 128 then [Char.ofNat b.toNat] else mend [b]

/-! ## Files -/

/-- Files are decoded in blocks of this many bytes, and faults are told by their place in a block. -/
def blockSize : Nat := 8192

/-- The failure of a file that is not UTF-8; `skipped` bytes stand before those that are decoded. The
fault is seen in the block that holds the byte after those to blame. A character that the end of the
block before cuts off belongs to the block; one cut off by the end of the file is looked at alone. -/
def BadUtf8.failureInFile (b : BadUtf8) (s : List UInt8) (skipped : Nat) : Failure :=
  match b.why with
  | .ended => { b with start := 0 }.failure
  | why =>
    let seen := if why == .start then b.start else b.start + b.count
    let boundary := (seen + skipped) / blockSize * blockSize - skipped
    let origin := match decodeUtf8 (s.take boundary) with
      | .ok _ => boundary
      | .error cut => cut.start
    { b with start := b.start - origin }.failure

/-- Decode the contents of a file. The mark alone, or a part of it, is an empty text. -/
def Encoding.decodeFile (e : Encoding) (s : List UInt8) : Except Failure (List Char) :=
  match e with
  | utf8 => (decodeUtf8 s).mapError fun b => b.failureInFile s 0
  | utf8Marked =>
    let r := dropMark s
    if s == [0xef] || s == [0xef, 0xbb] then .ok []
    else (decodeUtf8 r).mapError fun b => b.failureInFile r (s.length - r.length)
  | latin1 => e.decode s
  | ascii =>
    match s.findIdx? (128 ≤ ·.toNat) with
    | none => e.decode s
    | some i => .error (notAscii (s.getD i 0) (i % blockSize))

end Stencil.Text
