import Stencil.Text.Find
import Stencil.Text.NameTable
/-!
# Stencil.Text.CharName -- characters by name

Every character that has a name is found by it. Syllables that are put together from letters are
named by the letters, and unified ideographs by their code points; their names are in capital
letters. The names of all others are found whatever the case of their letters: in the table of
names, or by the code point, when that ends the name.
-/

namespace Stencil.Text

/-! ## Names with code points -/

/-- The number written in hexadecimal digits, or none. -/
def hexNumber? (s : List Char) : Option Nat :=
  s.foldl (fun acc c => do
    let n ← acc
    if c.isDigit then some (n * 16 + (c.toNat - 48))
    else if 'A' ≤ c && c ≤ 'F' then some (n * 16 + (c.toNat - 55))
    else none) (some 0)

/-- Whether a code point lies in one of some ranges. -/
def inRanges (n : Nat) (ranges : List (Nat × Nat)) : Bool :=
  ranges.any fun (first, last) => first ≤ n && n ≤ last

/-- The code points of the unified ideographs. -/
def ideographRanges : List (Nat × Nat) :=
  [(0x3400, 0x4DBF), (0x4E00, 0x9FFF), (0x20000, 0x2A6DF), (0x2A700, 0x2B738), (0x2B740, 0x2B81D),
   (0x2B820, 0x2CEA1), (0x2CEB0, 0x2EBE0), (0x30000, 0x3134A)]

/-- The unified ideograph with a code point in four or five digits. -/
def ideograph? (digits : List Char) : Option Char := do
  let n ← hexNumber? digits
  if (digits.length == 4 || digits.length == 5) && inRanges n ideographRanges then
    some (Char.ofNat n)
  else none

/-- The beginnings of names that end in code points, and the code points. -/
def namedByPlace : List (String × List (Nat × Nat)) :=
  [("CJK COMPATIBILITY IDEOGRAPH-", [(0xF900, 0xFA6D), (0xFA70, 0xFAD9), (0x2F800, 0x2FA1D)]),
   ("KHITAN SMALL SCRIPT CHARACTER-", [(0x18B00, 0x18CD5)]),
   ("NUSHU CHARACTER-", [(0x1B170, 0x1B2FB)])]

/-- The character with a name that ends in its code point, written without a leading zero. -/
def charByPlace? (name : List Char) : Option Char :=
  namedByPlace.findSome? fun (start, ranges) => do
    let digits ← afterPrefix? start.toList name
    let n ← hexNumber? digits
    if digits.head? != some '0' && inRanges n ranges then some (Char.ofNat n) else none

/-! ## Syllables -/

/-- The consonants with which syllables begin. -/
def leadingSounds : List String :=
  ["G", "GG", "N", "D", "DD", "R", "M", "B", "BB", "S", "SS", "", "J", "JJ", "C", "K", "T", "P",
   "H"]

/-- The vowels of syllables. -/
def vowelSounds : List String :=
  ["A", "AE", "YA", "YAE", "EO", "E", "YEO", "YE", "O", "WA", "WAE", "OE", "YO", "U", "WEO", "WE",
   "WI", "YU", "EU", "YI", "I"]

/-- The consonants with which syllables end. -/
def trailingSounds : List String :=
  ["", "G", "GG", "GS", "N", "NJ", "NH", "D", "L", "LG", "LM", "LB", "LS", "LT", "LP", "LH", "M",
   "B", "BS", "S", "SS", "NG", "J", "C", "K", "T", "P", "H"]

/-- The longest of some sounds with which a text begins: its number, and what stands behind it. -/
def longestSound? (sounds : List String) (s : List Char) : Option (Nat × List Char) :=
  sounds.zipIdx.foldl (fun best (sound, i) =>
    match afterPrefix? sound.toList s, best with
    | some r, some (_, q) => if r.length < q.length then some (i, r) else best
    | some r, none => some (i, r)
    | none, _ => best) none

/-- The syllable of some sounds. -/
def syllable? (sounds : List Char) : Option Char := do
  let (lead, r) ← longestSound? leadingSounds sounds
  let (vowel, r) ← longestSound? vowelSounds r
  let (tail, r) ← longestSound? trailingSounds r
  if r.isEmpty then
    some (Char.ofNat (0xAC00 + (lead * vowelSounds.length + vowel) * trailingSounds.length + tail))
  else none

/-! ## Names in the table -/

/-- The character with a name in words, from an entry of the table on: the next one is `n`, and the
words of the name before are known. -/
def charAmong? (words : List (List Char)) (n : Nat) (before : List (List Char)) :
    List (List Char) → Option Char
  | [] => none
  | ('@' :: place) :: entries => charAmong? words ((hexNumber? place).getD 0) before entries
  | entry :: entries =>
    let here := before.take ((entry.headD '0').toNat - 48) ++ split [' '] entry.tail
    if here == words then some (Char.ofNat n) else charAmong? words (n + 1) here entries

/-- The character with a name in the table. -/
def charInTable? (name : List Char) : Option Char :=
  charAmong? (split [' '] name) 0 [] (split [';'] (nameTable.flatten.flatMap String.toList))

/-- The character with a name. -/
def charNamed? (name : List Char) : Option Char :=
  match afterPrefix? "HANGUL SYLLABLE ".toList name with
  | some sounds => syllable? sounds
  | none =>
    match afterPrefix? "CJK UNIFIED IDEOGRAPH-".toList name with
    | some digits => ideograph? digits
    | none =>
      let name := name.map Char.toUpper
      (charByPlace? name).or (charInTable? name)

end Stencil.Text
