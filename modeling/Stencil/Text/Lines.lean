import Stencil.Text.Blank
/-!
# Stencil.Text.Lines -- line boundaries

Two notions of a line live side by side. A *terminator* is a carriage return, a line feed, or the
pair of them; only these end a line of a template or of inserted text. A *boundary* is any of the
eleven marks at which a message is cut when it is turned into a diagnostic: the terminators, the
vertical tab, the form feed, three information separators, and the Unicode next-line, line and
paragraph separators.
-/

namespace Stencil.Text

/-! ## Boundaries -/

/-- A character at which a message is cut. -/
def isBoundary (c : Char) : Bool :=
  let n := c.toNat
  (10 ≤ n && n ≤ 13) || (28 ≤ n && n ≤ 30) || n == 0x85 || n == 0x2028 || n == 0x2029

/-- Read one line: its text, the boundary that ended it (empty at the end of the text), and the
rest. A carriage return takes a directly following line feed with it. -/
def takeLine : List Char → List Char × List Char × List Char
  | [] => ([], [], [])
  | c :: r =>
    if isBoundary c then
      match c, r with
      | '\r', '\n' :: r' => ([], ['\r', '\n'], r')
      | _, _ => ([], [c], r)
    else
      let (l, b, rest) := takeLine r
      (c :: l, b, rest)

theorem takeLine_rest_length (s : List Char) : (takeLine s).2.2.length ≤ s.length - 1 := by
  induction s with
  | nil => simp [takeLine]
  | cons c r ih =>
    unfold takeLine
    by_cases h : isBoundary c = true
    · simp only [h, ↓reduceIte]
      split
      · simp only [List.length_cons]; omega
      · exact Nat.le_refl _
    · simp only [h, Bool.false_eq_true, ↓reduceIte, List.length_cons, Nat.add_sub_cancel]
      exact Nat.le_trans ih (Nat.sub_le _ _)

/-- The lines of a text with the boundary that ended each. The last line is listed only when it is
not empty or a boundary ended it, so a final boundary adds no empty line. -/
def linesWithBoundaries (s : List Char) : List (List Char × List Char) :=
  match s with
  | [] => []
  | c :: r =>
    let t := takeLine (c :: r)
    (t.1, t.2.1) :: linesWithBoundaries t.2.2
termination_by s.length
decreasing_by
  have := takeLine_rest_length (c :: r)
  simp only [List.length_cons] at this ⊢
  omega

/-- The lines of a text, boundaries removed. -/
def lines (s : List Char) : List (List Char) := (linesWithBoundaries s).map (·.1)

/-! ## Terminators -/

/-- Cut at every terminator, `\r\n` counting as one: `n` terminators give `n + 1` pieces. -/
def cutTerminators : List Char → List (List Char)
  | [] => [[]]
  | '\r' :: '\n' :: r => [] :: cutTerminators r
  | c :: r =>
    if c == '\r' || c == '\n' then [] :: cutTerminators r
    else
      match cutTerminators r with
      | [] => [[c]]
      | l :: ls => (c :: l) :: ls

/-- The lines of a text whose final terminator, if any, ends the last line rather than opening an
empty one. The empty text is one empty line. -/
def textLines (s : List Char) : List (List Char) :=
  let pieces := cutTerminators s
  if pieces.length > 1 && pieces.getLast? == some [] then pieces.dropLast else pieces

/-- Drop carriage returns and line feeds from the end of a line. -/
def chomp (s : List Char) : List Char := trimRightWhere (fun c => c == '\r' || c == '\n') s

/-- The lines of a text file: every terminator ends a line, and what follows the last one is a line
unless it is empty. -/
def fileLines (s : List Char) : List (List Char) :=
  let pieces := cutTerminators s
  if pieces.getLast? == some [] then pieces.dropLast else pieces

end Stencil.Text
