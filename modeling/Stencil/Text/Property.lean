/-!
# Stencil.Text.Property -- sets and maps of characters as tables

Unicode properties are long lists of ranges. A table is written as a text of numbers in base
thirty-six; a set lists the distances between the points where membership changes, and a map lists
runs of characters that are moved by the same distance. Looking a character up is a binary search.
-/

namespace Stencil.Text

/-- The value of a base thirty-six digit. -/
def digit36 (c : Char) : Nat :=
  if c.isDigit then c.toNat - 48 else c.toNat - 87

/-- The numbers written in a text, separated by blanks. `cur` is the number being read. -/
def numbersFrom (cur : Option Nat) (out : Array Nat) : List Char → Array Nat
  | [] => match cur with
    | some n => out.push n
    | none => out
  | c :: r =>
    if c == ' ' then
      match cur with
      | some n => numbersFrom none (out.push n) r
      | none => numbersFrom none out r
    else numbersFrom (some (cur.getD 0 * 36 + digit36 c)) out r

/-- The numbers written in a text. -/
def numbers (s : String) : Array Nat := numbersFrom none #[] s.toList

/-- How many entries of the sorted array, between `lo` and `hi`, are at most `x`, plus `lo`. -/
def rankBetween (a : Array Nat) (x : Nat) (lo hi : Nat) : Nat :=
  if lo < hi then
    let mid := (lo + hi) / 2
    if a.getD mid 0 ≤ x then rankBetween a x (mid + 1) hi else rankBetween a x lo mid
  else lo
termination_by hi - lo

/-- How many entries of the sorted array are at most `x`. -/
def rank (a : Array Nat) (x : Nat) : Nat := rankBetween a x 0 a.size

/-- A set of characters, as the code points at which membership changes. -/
structure CharSet where
  changes : Array Nat

/-- Read a set: each number is the distance from one change of membership to the next. -/
def CharSet.ofText (s : String) : CharSet :=
  ⟨((numbers s).foldl (fun (acc : Nat × Array Nat) d => (acc.1 + d, acc.2.push (acc.1 + d)))
    (0, #[])).2⟩

/-- Whether a code point belongs to the set. -/
def CharSet.holdsCode (t : CharSet) (n : Nat) : Bool := rank t.changes n % 2 == 1

/-- Whether a character belongs to the set. -/
def CharSet.holds (t : CharSet) (c : Char) : Bool := t.holdsCode c.toNat

/-- A run of characters that are mapped by the same distance. -/
structure CharRun where
  count : Nat
  stride : Nat
  distance : Int
  deriving Inhabited

/-- A map from characters to characters, as runs and the code points at which they start. -/
structure CharMap where
  starts : Array Nat
  runs : Array CharRun

/-- Read runs: the distance from the start of one run to the next, how many characters the run has
and how far apart they are, and the distance moved (twice its size, less one when it is negative). -/
def CharMap.ofNumbers (last : Nat) (m : CharMap) : List Nat → CharMap
  | gap :: count :: stride :: move :: rest =>
    let distance : Int := if move % 2 == 0 then (move / 2 : Nat) else -((move + 1) / 2 : Nat)
    CharMap.ofNumbers (last + gap)
      ⟨m.starts.push (last + gap), m.runs.push ⟨count, stride, distance⟩⟩ rest
  | _ => m

/-- Read a map. -/
def CharMap.ofText (s : String) : CharMap := CharMap.ofNumbers 0 ⟨#[], #[]⟩ (numbers s).toList

/-- The code point to which a code point is mapped; one that is in no run stays. -/
def CharMap.code (m : CharMap) (n : Nat) : Nat :=
  match rank m.starts n with
  | 0 => n
  | i + 1 =>
    let start := m.starts.getD i 0
    match m.runs[i]? with
    | none => n
    | some r =>
      if (n - start) % r.stride == 0 && (n - start) / r.stride < r.count then
        ((n : Int) + r.distance).toNat
      else n

/-- The character to which a character is mapped. -/
def CharMap.char (m : CharMap) (c : Char) : Char := Char.ofNat (m.code c.toNat)

/-- A map from characters to texts, as keys and values. -/
structure CharTexts where
  keys : Array Nat
  texts : Array (List Char)

/-- Read a map to texts: a key, the length of the text, and its characters. `n` characters are
still to come for the entry being read. -/
def CharTexts.ofNumbers (m : CharTexts) (key n : Nat) (cur : List Char) : List Nat → CharTexts
  | [] => m
  | x :: rest =>
    match n with
    | 0 => ofLength m x rest
    | 1 => CharTexts.ofNumbers
        ⟨m.keys.push key, m.texts.push (cur ++ [Char.ofNat x])⟩ 0 0 [] rest
    | n + 2 => CharTexts.ofNumbers m key (n + 1) (cur ++ [Char.ofNat x]) rest
where
  /-- Read the length of the text that belongs to a key. -/
  ofLength (m : CharTexts) (key : Nat) : List Nat → CharTexts
    | [] => m
    | n :: rest => CharTexts.ofNumbers m key n [] rest

/-- Read a map to texts. -/
def CharTexts.ofText (s : String) : CharTexts :=
  CharTexts.ofNumbers ⟨#[], #[]⟩ 0 0 [] (numbers s).toList

/-- The text to which a character is mapped, if it has one. -/
def CharTexts.text? (m : CharTexts) (c : Char) : Option (List Char) :=
  match rank m.keys c.toNat with
  | 0 => none
  | i + 1 => if m.keys.getD i 0 == c.toNat then m.texts[i]? else none

end Stencil.Text
