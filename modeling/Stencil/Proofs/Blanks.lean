import Mathlib.Data.List.DropRight
import Mathlib.Data.List.TakeWhile
import Stencil.Text.Blank
/-!
# Stencil.Proofs.Blanks -- trimming and cutting at blanks

Trimming takes the blanks off both ends of a text and nothing else, so blanks that are put around a
text do not change what is left of it, and a text whose first and last characters are no blanks is
not changed. The words of a text are the first run of characters that are no blanks, and the words
of what follows it.
-/

namespace Stencil

open Stencil.Text

section Runs

variable {α : Type} {p : α → Bool} {s w : List α}

theorem dropWhile_eq_self (h : ∀ c, s.head? = some c → p c = false) : s.dropWhile p = s := by
  cases s with
  | nil => rfl
  | cons c r => rw [List.dropWhile_cons, h c rfl]; rfl

theorem head?_dropWhile (p : α → Bool) (s : List α) :
    ∀ c, (s.dropWhile p).head? = some c → p c = false := by
  intro c hc
  have hnot := List.head?_dropWhile_not p s
  rw [hc] at hnot
  simpa using hnot

theorem takeWhile_append_of_stop {r : List α} (hw : ∀ c ∈ w, p c = true)
    (hr : ∀ c, r.head? = some c → p c = false) : (w ++ r).takeWhile p = w := by
  rw [List.takeWhile_append_of_pos hw]
  cases r with
  | nil => simp
  | cons c r => simp [hr c rfl]

theorem dropWhile_append_of_stop {r : List α} (hw : ∀ c ∈ w, p c = true)
    (hr : ∀ c, r.head? = some c → p c = false) : (w ++ r).dropWhile p = r := by
  rw [List.dropWhile_append_of_pos hw, dropWhile_eq_self hr]

theorem mem_dropWhile_of_not {c : α} (hc : p c = false) (h : c ∈ s) : c ∈ s.dropWhile p := by
  rw [← List.takeWhile_append_dropWhile (p := p) (l := s), List.mem_append] at h
  rcases h with hrun | hrest
  · rw [List.mem_takeWhile_imp hrun] at hc
    cases hc
  · exact hrest

end Runs

/-! ## Trimming -/

section Trimming

variable {s w : List Char}

theorem trim_eq (s : List Char) : trim s = (s.dropWhile isBlank).rdropWhile isBlank := rfl

/-- A text that neither starts nor ends with a blank is trimmed already. -/
theorem trim_eq_self (hfirst : ∀ c, s.head? = some c → isBlank c = false)
    (hlast : ∀ c, s.getLast? = some c → isBlank c = false) : trim s = s := by
  have hrev : ∀ c, s.reverse.head? = some c → isBlank c = false := by
    simpa only [List.head?_reverse] using hlast
  rw [trim, trimWhere, trimLeftWhere, trimRightWhere, dropWhile_eq_self hfirst,
    dropWhile_eq_self hrev, List.reverse_reverse]

/-- Nothing is left of the blanks before a text. -/
theorem trim_append_left (hw : ∀ c ∈ w, isBlank c = true) (s : List Char) :
    trim (w ++ s) = trim s := by
  rw [trim_eq, trim_eq, List.dropWhile_append_of_pos hw]

/-- Nothing is left of the blanks behind a text. -/
theorem trim_append_right (s : List Char) (hw : ∀ c ∈ w, isBlank c = true) :
    trim (s ++ w) = trim s := by
  have hrev : ∀ c ∈ w.reverse, isBlank c = true := fun c hc => hw c (List.mem_reverse.mp hc)
  rw [trim_eq, trim_eq, List.dropWhile_append]
  split
  · next hnil =>
    rw [List.isEmpty_iff.mp hnil, List.dropWhile_eq_nil_iff.mpr hw]
  · rw [List.rdropWhile, List.reverse_append, List.dropWhile_append_of_pos hrev, List.rdropWhile]

theorem getLast?_trim (s : List Char) : ∀ c, (trim s).getLast? = some c → isBlank c = false := by
  intro c hc
  rw [trim_eq, List.rdropWhile, List.getLast?_reverse] at hc
  exact head?_dropWhile _ _ c hc

theorem head?_trim (s : List Char) : ∀ c, (trim s).head? = some c → isBlank c = false := by
  intro c hc
  refine head?_dropWhile isBlank s c ?_
  obtain ⟨tail, htail⟩ := List.rdropWhile_prefix isBlank (s.dropWhile isBlank)
  rw [← htail, ← trim_eq, List.head?_append, hc]
  rfl

@[simp] theorem trim_trim (s : List Char) : trim (trim s) = trim s :=
  trim_eq_self (head?_trim s) (getLast?_trim s)

theorem trim_sublist (s : List Char) : (trim s).Sublist s :=
  (List.rdropWhile_prefix isBlank _).sublist.trans (List.dropWhile_sublist _)

/-- What is no blank is not trimmed off. -/
theorem mem_trim_iff {c : Char} (hc : isBlank c = false) : c ∈ trim s ↔ c ∈ s := by
  refine ⟨(trim_sublist s).mem, fun h => ?_⟩
  rw [trim_eq, List.rdropWhile, List.mem_reverse]
  refine mem_dropWhile_of_not hc (List.mem_reverse.mpr ?_)
  exact mem_dropWhile_of_not hc h

end Trimming

/-! ## Words -/

section Words

/-- The word that is being read goes on to the next blank. -/
theorem wordsFrom_eq (cur s : List Char) (hcur : cur ≠ []) :
    wordsFrom cur s =
      (cur.reverse ++ s.takeWhile (!isBlank ·)) :: words (s.dropWhile (!isBlank ·)) := by
  induction s generalizing cur with
  | nil => simp [wordsFrom, words, hcur]
  | cons c r ih =>
    cases hc : isBlank c with
    | true => simp [wordsFrom, words, hc, hcur]
    | false => simp [wordsFrom, hc, ih (c :: cur) (List.cons_ne_nil _ _)]

/-- Blanks before a text do not change its words. -/
theorem words_dropWhile (s : List Char) : words (s.dropWhile isBlank) = words s := by
  induction s with
  | nil => rfl
  | cons c r ih =>
    cases hc : isBlank c with
    | true => rw [List.dropWhile_cons_of_pos hc, ih, words, words, wordsFrom, if_pos hc]; rfl
    | false => rw [List.dropWhile_cons_of_neg (by simp [hc])]

/-- The first word of a text that starts with one, and the words of what follows it. -/
theorem words_of_head {s : List Char} {c : Char} (hhead : s.head? = some c)
    (hc : isBlank c = false) :
    words s = s.takeWhile (!isBlank ·) :: words (s.dropWhile (!isBlank ·)) := by
  obtain ⟨r, rfl⟩ : ∃ r, s = c :: r := by
    cases s with
    | nil => exact absurd hhead nofun
    | cons d r => exact ⟨r, by rw [Option.some.inj hhead]⟩
  rw [words, wordsFrom, if_neg (by simp [hc]), wordsFrom_eq _ _ (List.cons_ne_nil _ _)]
  simp [hc]

/-- A text of blanks has no words. -/
theorem words_eq_nil_iff {s : List Char} : words s = [] ↔ s.dropWhile isBlank = [] := by
  rw [← words_dropWhile]
  constructor
  · intro hwords
    cases hd : s.dropWhile isBlank with
    | nil => rfl
    | cons c r =>
      have hc := head?_dropWhile isBlank s c (by rw [hd]; rfl)
      rw [hd, words_of_head rfl hc] at hwords
      exact absurd hwords (List.cons_ne_nil _ _)
  · intro hnil
    rw [hnil]
    rfl

/-- Only the empty text has no words and does not end with a blank. -/
theorem eq_nil_of_words {s : List Char} (hlast : ∀ c, s.getLast? = some c → isBlank c = false)
    (h : words s = []) : s = [] := by
  have hall := List.dropWhile_eq_nil_iff.mp (words_eq_nil_iff.mp h)
  cases hs : s.getLast? with
  | none => exact List.getLast?_eq_none_iff.mp hs
  | some c =>
    have hblank := hall c (List.mem_of_getLast? hs)
    rw [hlast c hs] at hblank
    exact absurd hblank nofun

/-- A part at the end of a text ends as the text does. -/
theorem getLast?_of_suffix {p : Char → Prop} {r s : List Char} (hr : r <:+ s)
    (hlast : ∀ c, s.getLast? = some c → p c) : ∀ c, r.getLast? = some c → p c := by
  intro c hc
  obtain ⟨q, rfl⟩ := hr
  refine hlast c ?_
  rw [List.getLast?_append, hc]
  rfl

end Words

end Stencil
