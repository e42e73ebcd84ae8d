import Stencil.Text.Find
import Stencil.Text.Lines
/-!
# Stencil.Proofs.LineEnds -- texts cut into lines and put together again

A file is cut at three kinds of line ends and written with one of them, which also ends the last
line. What has been written differs from what has been read in its line ends only, and its lines are
the same; so writing it once more changes nothing.
-/

namespace Stencil.Text

/-! ## Texts as they are written -/

/-- A character that ends a line. -/
def endsLine (c : Char) : Bool := c == '\r' || c == '\n'

/-- A text with a line feed for each of its line ends. -/
def unified : List Char → List Char
  | [] => []
  | '\r' :: '\n' :: r => '\n' :: unified r
  | c :: r => (if c == '\r' then '\n' else c) :: unified r

/-- Whether a text stops within a line. -/
def stopsInLine (s : List Char) : Bool := s.getLast?.any (!endsLine ·)

/-- A text as it is written: with line feeds for its line ends, and one behind the last line. -/
def verbatim (s : List Char) : List Char := unified s ++ if stopsInLine s then ['\n'] else []

/-- Lines one behind the other, each with a line feed. -/
def unlines (ls : List (List Char)) : List Char := ls.flatMap (· ++ ['\n'])

theorem unlines_cons (l : List Char) (ls : List (List Char)) :
    unlines (l :: ls) = l ++ '\n' :: unlines ls := by
  rw [unlines, List.flatMap_cons, List.append_assoc, List.singleton_append, unlines]

/-- Lines with line feeds between them only lack the last one. -/
theorem join_append_feed {ls : List (List Char)} (h : ls ≠ []) :
    join ['\n'] ls ++ ['\n'] = unlines ls := by
  induction ls with
  | nil => exact absurd rfl h
  | cons l ls ih =>
    cases ls with
    | nil => rw [unlines_cons]; rfl
    | cons m ls =>
      have hjoin : join ['\n'] (l :: m :: ls) = l ++ ['\n'] ++ join ['\n'] (m :: ls) := rfl
      rw [unlines_cons, ← ih (List.cons_ne_nil m ls), hjoin, List.append_assoc, List.append_assoc]
      rfl

/-! ## Pieces between line ends -/

section Cutting

variable {c : Char} {r l : List Char} {ls : List (List Char)}

theorem cutTerminators_of_end (hpair : ∀ r', c = '\r' → r = '\n' :: r' → False)
    (hc : endsLine c = true) : cutTerminators (c :: r) = [] :: cutTerminators r := by
  rw [cutTerminators]
  · exact if_pos hc
  · exact hpair

theorem cutTerminators_of_inner (hc : endsLine c = false) (h : cutTerminators r = l :: ls) :
    cutTerminators (c :: r) = (c :: l) :: ls := by
  have hcr : c ≠ '\r' := by rintro rfl; cases hc
  rw [cutTerminators, h]
  · exact if_neg (Bool.eq_false_iff.mp hc)
  · exact fun _ heq _ => hcr heq

theorem unified_of_inner (hc : endsLine c = false) : unified (c :: r) = c :: unified r := by
  have hcr : c ≠ '\r' := by rintro rfl; cases hc
  rw [unified, if_neg (by simpa using hcr)]
  exact fun _ heq _ => hcr heq

theorem unified_of_end (hpair : ∀ r', c = '\r' → r = '\n' :: r' → False)
    (hc : endsLine c = true) : unified (c :: r) = '\n' :: unified r := by
  rw [unified]
  · rw [endsLine, Bool.or_eq_true, beq_iff_eq, beq_iff_eq] at hc
    rcases hc with rfl | rfl <;> rfl
  · exact hpair

end Cutting

theorem cutTerminators_ne_nil (s : List Char) : cutTerminators s ≠ [] := by
  induction s using cutTerminators.induct with
  | case1 => exact List.cons_ne_nil _ _
  | case2 r _ => exact List.cons_ne_nil _ _
  | case3 c r hpair hc _ =>
    rw [cutTerminators_of_end hpair hc]
    exact List.cons_ne_nil _ _
  | case4 c r _ _ hnil ih => exact absurd hnil ih
  | case5 c r _ hc l ls h _ =>
    rw [cutTerminators_of_inner (Bool.eq_false_iff.mpr hc) h]
    exact List.cons_ne_nil _ _

/-- Induction on a text: two characters may end a line, or one, or a character goes to the first
piece of what is behind it. -/
@[elab_as_elim]
theorem cutInduction {motive : List Char → Prop} (nil : motive [])
    (pair : ∀ r, motive r → motive ('\r' :: '\n' :: r))
    (ending : ∀ c r, (∀ r', c = '\r' → r = '\n' :: r' → False) → endsLine c = true → motive r →
      motive (c :: r))
    (inner : ∀ c r l ls, endsLine c = false → cutTerminators r = l :: ls → motive r →
      motive (c :: r)) (s : List Char) : motive s := by
  induction s using cutTerminators.induct with
  | case1 => exact nil
  | case2 r ih => exact pair r ih
  | case3 c r hpair hc ih => exact ending c r hpair hc ih
  | case4 c r _ _ hnil _ => exact absurd hnil (cutTerminators_ne_nil r)
  | case5 c r _ hc l ls h ih => exact inner c r l ls (Bool.eq_false_iff.mpr hc) h ih

/-- The pieces between line ends, each with a line feed behind it. -/
theorem unlines_cutTerminators (s : List Char) :
    unlines (cutTerminators s) = unified s ++ ['\n'] := by
  induction s using cutInduction with
  | nil => rfl
  | pair r ih =>
    rw [cutTerminators, unified, unlines_cons, ih]
    rfl
  | ending c r hpair hc ih =>
    rw [cutTerminators_of_end hpair hc, unified_of_end hpair hc, unlines_cons, ih]
    rfl
  | inner c r l ls hc h ih =>
    rw [h, unlines_cons] at ih
    rw [cutTerminators_of_inner hc h, unified_of_inner hc, unlines_cons, List.cons_append, ih]
    rfl

theorem stopsInLine_of_end {c : Char} (hc : endsLine c = true) (r : List Char) :
    stopsInLine (c :: r) = stopsInLine r := by
  cases r with
  | nil => simp [stopsInLine, hc]
  | cons d r => rw [stopsInLine, List.getLast?_cons_cons, stopsInLine]

theorem eq_nil_of_cutTerminators {s : List Char} (h : cutTerminators s = [[]]) : s = [] := by
  have hunified := unlines_cutTerminators s
  rw [h] at hunified
  have hnil : unified s = [] := List.append_cancel_right hunified.symm
  cases s using unified.fun_cases with
  | case1 => rfl
  | case2 r => rw [unified] at hnil; cases hnil
  | case3 c r hpair => rw [unified] at hnil; cases hnil; exact hpair

/-- The last piece is empty unless the text stops within a line. -/
theorem getLast?_cutTerminators (s : List Char) :
    (cutTerminators s).getLast? = some [] ↔ stopsInLine s = false := by
  have hempty : ∀ r, ([] :: cutTerminators r).getLast? = (cutTerminators r).getLast? := by
    intro r
    obtain ⟨l, ls, h⟩ := List.exists_cons_of_ne_nil (cutTerminators_ne_nil r)
    rw [h, List.getLast?_cons_cons]
  induction s using cutInduction with
  | nil => decide
  | pair r ih =>
    rw [cutTerminators, hempty, stopsInLine_of_end rfl, stopsInLine_of_end rfl]
    exact ih
  | ending c r hpair hc ih =>
    rw [cutTerminators_of_end hpair hc, hempty, stopsInLine_of_end hc]
    exact ih
  | inner c r l ls hc h ih =>
    rw [cutTerminators_of_inner hc h]
    cases r with
    | nil =>
      cases h
      simp [stopsInLine, hc]
    | cons d r =>
      have hstops : stopsInLine (c :: d :: r) = stopsInLine (d :: r) := by
        rw [stopsInLine, List.getLast?_cons_cons, stopsInLine]
      rw [h] at ih
      rw [hstops]
      refine Iff.trans ?_ ih
      cases ls with
      | cons m ms => rw [List.getLast?_cons_cons, List.getLast?_cons_cons]
      | nil =>
        -- The only piece of a text that is not empty is not empty either.
        have hl : l ≠ [] := fun hl => List.cons_ne_nil d r (eq_nil_of_cutTerminators (hl ▸ h))
        simp [hl]

/-- No piece holds a line end. -/
theorem endsLine_of_mem_cutTerminators {s l : List Char} (hl : l ∈ cutTerminators s) {c : Char}
    (hc : c ∈ l) : endsLine c = false := by
  induction s using cutInduction generalizing l with
  | nil => simp_all [cutTerminators]
  | pair r ih =>
    rw [cutTerminators, List.mem_cons] at hl
    rcases hl with rfl | hl
    · cases hc
    · exact ih hl hc
  | ending d r hpair hd ih =>
    rw [cutTerminators_of_end hpair hd, List.mem_cons] at hl
    rcases hl with rfl | hl
    · cases hc
    · exact ih hl hc
  | inner d r m ms hd h ih =>
    rw [cutTerminators_of_inner hd h, List.mem_cons] at hl
    rw [h] at ih
    rcases hl with rfl | hl
    · rcases List.mem_cons.mp hc with rfl | hc
      · exact hd
      · exact ih List.mem_cons_self hc
    · exact ih (List.mem_cons_of_mem m hl) hc

/-! ## Lines of files -/

/-- A text as it is written is made of its lines. -/
theorem unlines_fileLines (s : List Char) : unlines (fileLines s) = verbatim s := by
  have hpieces := unlines_cutTerminators s
  have hlast := getLast?_cutTerminators s
  rw [fileLines, verbatim]
  cases hstops : stopsInLine s with
  | true =>
    have hopen : ¬ ((cutTerminators s).getLast? == some []) = true := by
      rw [beq_iff_eq, hlast, hstops]
      nofun
    rw [if_neg hopen, hpieces]
    rfl
  | false =>
    have hended := hlast.mpr hstops
    obtain ⟨ls, hls⟩ := List.getLast?_eq_some_iff.mp hended
    rw [if_pos (by rw [beq_iff_eq, hended]), if_neg nofun, List.append_nil, hls,
      List.dropLast_concat]
    rw [hls, unlines, List.flatMap_append] at hpieces
    exact List.append_cancel_right hpieces

theorem mem_fileLines {s l : List Char} (hl : l ∈ fileLines s) : l ∈ cutTerminators s := by
  rw [fileLines] at hl
  split at hl
  · exact List.dropLast_subset _ hl
  · exact hl

/-- A line without line ends is read up to the line feed behind it. -/
theorem cutTerminators_append {l : List Char} (hl : ∀ c ∈ l, endsLine c = false) (r : List Char) :
    cutTerminators (l ++ '\n' :: r) = l :: cutTerminators r := by
  induction l with
  | nil => exact cutTerminators_of_end nofun rfl
  | cons c l ih =>
    exact cutTerminators_of_inner (hl c List.mem_cons_self)
      (ih fun d hd => hl d (List.mem_cons_of_mem c hd))

/-- Lines that have been written are read as they were. -/
theorem fileLines_unlines {ls : List (List Char)} (hls : ∀ l ∈ ls, ∀ c ∈ l, endsLine c = false) :
    fileLines (unlines ls) = ls := by
  have hcut : cutTerminators (unlines ls) = ls ++ [[]] := by
    induction ls with
    | nil => rfl
    | cons l ls ih =>
      rw [unlines_cons, cutTerminators_append (hls l List.mem_cons_self),
        ih fun m hm => hls m (List.mem_cons_of_mem l hm), List.cons_append]
  rw [fileLines, hcut, if_pos (by simp), List.dropLast_concat]

/-- The lines of a text as it is written are its lines. -/
theorem fileLines_verbatim (s : List Char) : fileLines (verbatim s) = fileLines s := by
  rw [← unlines_fileLines]
  exact fileLines_unlines fun l hl c hc => endsLine_of_mem_cutTerminators (mem_fileLines hl) hc

theorem verbatim_verbatim (s : List Char) : verbatim (verbatim s) = verbatim s := by
  rw [← unlines_fileLines (verbatim s), fileLines_verbatim, unlines_fileLines]

/-- Without carriage returns there is nothing to unify. -/
theorem unified_eq_self {s : List Char} (hreturn : '\r' ∉ s) : unified s = s := by
  induction s using unified.induct with
  | case1 => rfl
  | case2 r _ => exact absurd List.mem_cons_self hreturn
  | case3 c r hpair ih =>
    have hc : c ≠ '\r' := fun hc => hreturn (hc ▸ List.mem_cons_self)
    have hr : '\r' ∉ r := fun hr => hreturn (List.mem_cons_of_mem c hr)
    rw [unified, if_neg (by simpa using hc), ih hr]
    exact hpair

/-- A text that only has line feeds for line ends, and does not stop within a line, is written as it
is. -/
theorem verbatim_eq_self {s : List Char} (hreturn : '\r' ∉ s) (hstops : stopsInLine s = false) :
    verbatim s = s := by
  rw [verbatim, unified_eq_self hreturn, hstops]
  exact List.append_nil s

end Stencil.Text
