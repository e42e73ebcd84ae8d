/-!
# Stencil.Text.Blank -- white space

Which characters separate words, and the three operations that depend on nothing else: trimming
the ends of a text, and cutting it into words. The set is the Unicode one: the ASCII controls and
separators, the no-break space, and the spaces of the general punctuation block.
-/

namespace Stencil.Text

/-- A character is blank when Unicode gives it the property `White_Space` or one of the
bidirectional classes for separators (the four information separators). -/
def isBlank (c : Char) : Bool :=
  let n := c.toNat
  (9 ≤ n && n ≤ 13) || (28 ≤ n && n ≤ 32) || n == 0x85 || n == 0xa0 || n == 0x1680 ||
    (0x2000 ≤ n && n ≤ 0x200a) || n == 0x2028 || n == 0x2029 || n == 0x202f || n == 0x205f ||
    n == 0x3000

/-! ## Trimming -/

/-- Drop the longest run of characters satisfying `p` from the start. -/
def trimLeftWhere (p : Char → Bool) (s : List Char) : List Char := s.dropWhile p

/-- Drop the longest run of characters satisfying `p` from the end. -/
def trimRightWhere (p : Char → Bool) (s : List Char) : List Char := (s.reverse.dropWhile p).reverse

/-- Drop the characters satisfying `p` from both ends. -/
def trimWhere (p : Char → Bool) (s : List Char) : List Char :=
  trimRightWhere p (trimLeftWhere p s)

/-- Drop blanks from both ends. -/
def trim (s : List Char) : List Char := trimWhere isBlank s

/-- Drop blanks from both ends of a string. -/
def trimString (s : String) : String := String.ofList (trim s.toList)

/-! ## Words -/

/-- Cut at runs of blanks; no word is empty. `cur` holds the letters of the word being read, last
letter first. -/
def wordsFrom (cur : List Char) : List Char → List (List Char)
  | [] => if cur.isEmpty then [] else [cur.reverse]
  | c :: r =>
    if isBlank c then
      if cur.isEmpty then wordsFrom [] r else cur.reverse :: wordsFrom [] r
    else wordsFrom (c :: cur) r

/-- The maximal runs of non-blank characters, in order. -/
def words (s : List Char) : List (List Char) := wordsFrom [] s

end Stencil.Text
