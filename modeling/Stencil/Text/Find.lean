/-!
# Stencil.Text.Find -- literal search

Searching, replacing and cutting at a literal piece of text. Everything scans from the left and
takes occurrences that do not overlap; the empty piece occurs once before every character and once
at the end.
-/

namespace Stencil.Text

/-- What follows `p` in `s`, when `s` starts with `p`. -/
def afterPrefix? : List Char → List Char → Option (List Char)
  | [], s => some s
  | _ :: _, [] => none
  | p :: ps, c :: r => if p == c then afterPrefix? ps r else none

theorem afterPrefix?_eq_some_iff {p s r : List Char} : afterPrefix? p s = some r ↔ s = p ++ r := by
  induction p generalizing s with
  | nil => simp [afterPrefix?]
  | cons c p ih =>
    cases s with
    | nil => simp [afterPrefix?]
    | cons d s =>
      by_cases h : c = d
      · subst h; simp [afterPrefix?, ih]
      · simp only [afterPrefix?, beq_iff_eq, h, ↓reduceIte, List.cons_append, List.cons.injEq,
          reduceCtorEq, false_iff, not_and]
        exact fun h' => absurd h'.symm h

/-- Whether `s` starts with `p`. -/
def startsWith (p s : List Char) : Bool := (afterPrefix? p s).isSome

/-- Whether `s` ends with `p`. -/
def endsWith (p s : List Char) : Bool := startsWith p.reverse s.reverse

/-- Positions, counted from `i`, at which `p` stands in `s`, leftmost first and not overlapping.
After a match the search goes on behind it, so the `skip` characters of the match are passed over.
Only a non-empty `p` is meant. -/
def occurrencesFrom (p : List Char) : List Char → Nat → Nat → List Nat
  | [], _, _ => []
  | _ :: r, i, skip + 1 => occurrencesFrom p r (i + 1) skip
  | c :: r, i, 0 =>
    if startsWith p (c :: r) then i :: occurrencesFrom p r (i + 1) (p.length - 1)
    else occurrencesFrom p r (i + 1) 0

/-- The positions of the leftmost non-overlapping occurrences of `p` in `s`. -/
def occurrences (p s : List Char) : List Nat :=
  if p.isEmpty then List.range (s.length + 1) else occurrencesFrom p s 0 0

/-- The first position at or after `i` at which `p` stands in `s`; `s` is the text from `i` on. -/
def findFrom (p : List Char) : List Char → Nat → Option Nat
  | [], i => if p.isEmpty then some i else none
  | c :: r, i => if startsWith p (c :: r) then some i else findFrom p r (i + 1)

/-- The first position of `p` in `s`. -/
def find? (p s : List Char) : Option Nat := findFrom p s 0

/-- The last position of `p` in `s`. -/
def findLast? (p s : List Char) : Option Nat :=
  (find? p.reverse s.reverse).map fun i => s.length - i - p.length

/-- Whether `p` stands somewhere in `s`. -/
def contains (p s : List Char) : Bool := (find? p s).isSome

/-! ## Replacing -/

/-- Put `r` for the first `n` occurrences of the non-empty piece `p`; `skip` characters of a
replaced occurrence are still to be passed over. -/
def replaceFrom (p r : List Char) : List Char → Nat → Nat → List Char
  | [], _, _ => []
  | _ :: s, n, skip + 1 => replaceFrom p r s n skip
  | c :: s, n, 0 =>
    if n = 0 then c :: s
    else if startsWith p (c :: s) then r ++ replaceFrom p r s (n - 1) (p.length - 1)
    else c :: replaceFrom p r s n 0

/-- Put `r` before every character and at the end, at most `n` times. -/
def interleave (r : List Char) : List Char → Nat → List Char
  | s, 0 => s
  | [], _ + 1 => r
  | c :: s, n + 1 => r ++ c :: interleave r s n

/-- Put `r` for the first `n` occurrences of `p`. -/
def replaceUpTo (p r s : List Char) (n : Nat) : List Char :=
  if p.isEmpty then interleave r s n else replaceFrom p r s n 0

/-- Put `r` for every occurrence of `p`. -/
def replaceAll (p r s : List Char) : List Char := replaceUpTo p r s (s.length + 1)

/-! ## Cutting -/

/-- Cut at the first `n` occurrences of the non-empty `sep`; `cur` holds the piece being read, last
character first. -/
def splitFrom (sep : List Char) : List Char → Nat → Nat → List Char → List (List Char)
  | [], _, _, cur => [cur.reverse]
  | _ :: s, n, skip + 1, cur => splitFrom sep s n skip cur
  | c :: s, n, 0, cur =>
    if n = 0 then [cur.reverse ++ c :: s]
    else if startsWith sep (c :: s) then cur.reverse :: splitFrom sep s (n - 1) (sep.length - 1) []
    else splitFrom sep s n 0 (c :: cur)

/-- The pieces of `s` between the first `n` occurrences of `sep`. -/
def splitUpTo (sep s : List Char) (n : Nat) : List (List Char) := splitFrom sep s n 0 []

/-- The pieces of `s` between all occurrences of `sep`. -/
def split (sep s : List Char) : List (List Char) := splitUpTo sep s (s.length + 1)

/-- The pieces of `s` between its last `n` occurrences of `sep`, found from the right. -/
def splitLastUpTo (sep s : List Char) (n : Nat) : List (List Char) :=
  ((splitUpTo sep.reverse s.reverse n).map List.reverse).reverse

/-- Put `sep` between the pieces. -/
def join (sep : List Char) : List (List Char) → List Char
  | [] => []
  | [p] => p
  | p :: ps => p ++ sep ++ join sep ps

end Stencil.Text
