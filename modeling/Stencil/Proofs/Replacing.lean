import Stencil.Proofs.Effects
/-!
# Stencil.Proofs.Replacing -- putting a text for every occurrence

A rule walks along the matches of its pattern and keeps what stands between them. For a literal
pattern that is the same as `Text.replaceAll`, which walks along the characters and knows nothing of
matches. The two are compared at a place in the middle of the text: `gap` is what the walk along the
matches has passed over since the last match, `skip` what the walk along the characters has still to
pass over of a match that it has replaced already. One of the two is always nothing.
-/

namespace Stencil

open Stencil.Expr Stencil.Text

/-! ## Walking along the characters -/

section Walking

variable {p : List Char} {c : Char} {r : List Char}

theorem occurrencesFrom_of_startsWith (h : startsWith p (c :: r) = true) (i : Nat) :
    occurrencesFrom p (c :: r) i 0 = i :: occurrencesFrom p r (i + 1) (p.length - 1) := by
  rw [occurrencesFrom, if_pos h]

theorem occurrencesFrom_of_not_startsWith (h : ¬startsWith p (c :: r) = true) (i : Nat) :
    occurrencesFrom p (c :: r) i 0 = occurrencesFrom p r (i + 1) 0 := by
  rw [occurrencesFrom, if_neg h]

theorem replaceFrom_of_startsWith (new : List Char) (h : startsWith p (c :: r) = true) (n : Nat) :
    replaceFrom p new (c :: r) (n + 1) 0 = new ++ replaceFrom p new r n (p.length - 1) := by
  rw [replaceFrom, if_neg (Nat.succ_ne_zero n), if_pos h, Nat.add_sub_cancel]

theorem replaceFrom_of_not_startsWith (new : List Char) (h : ¬startsWith p (c :: r) = true)
    (n : Nat) : replaceFrom p new (c :: r) (n + 1) 0 = c :: replaceFrom p new r (n + 1) 0 := by
  rw [replaceFrom, if_neg (Nat.succ_ne_zero n), if_neg h]

end Walking

/-! ## Walking along the matches -/

/-- The replacement that puts the same text for every match. -/
def constantly (new : List Char) : Hit → Act String := fun _ => pure (String.ofList new)

/-- One match is replaced once it is known what comes of the rest. -/
theorem replaceHits_constantly_cons {new rest : List Char} (after : List Char) {pos : Nat}
    {h : Hit} {hs : List Hit}
    (hrest : replaceHits (constantly new) h.stop (rest.drop (h.stop - pos)) hs = pure after) :
    replaceHits (constantly new) pos rest (h :: hs) =
      pure (rest.take (h.start - pos) ++ new ++ after) := by
  rw [replaceHits, hrest]
  funext m
  simp [constantly]

/-- The match that stands for an occurrence. -/
def occurrenceHit (p : List Char) (i : Nat) : Hit := ⟨i, i + p.length, [p]⟩

/-- From a place in the middle of a text on, walking along the matches of a pattern that is not
empty comes to the same as walking along the characters. -/
theorem replaceHits_occurrencesFrom {p : List Char} (new : List Char) (hp : p ≠ [])
    (s : List Char) :
    ∀ (gap : List Char) (pos i skip n : Nat), pos + gap.length = i + skip →
      (skip = 0 ∨ gap = []) → s.length ≤ n →
      replaceHits (constantly new) pos (gap ++ s.drop skip)
          ((occurrencesFrom p s i skip).map (occurrenceHit p)) =
        pure (gap ++ replaceFrom p new s n skip) := by
  induction s with
  | nil =>
    intro gap pos i skip n _ _ _
    simp [occurrencesFrom, replaceFrom, replaceHits]
  | cons c r ih =>
    intro gap pos i skip n hpos hone hn
    cases skip with
    | succ skip =>
      -- Inside a match that has been replaced: both walks pass over one more character.
      have hgap : gap = [] := hone.resolve_left (Nat.succ_ne_zero skip)
      exact ih gap pos (i + 1) skip n (by omega) (.inr hgap) (Nat.le_of_succ_le hn)
    | zero =>
      obtain ⟨n, rfl⟩ : ∃ m, n = m + 1 := Nat.exists_eq_succ_of_ne_zero (Nat.ne_zero_of_lt hn)
      rw [List.drop_zero]
      by_cases hstart : startsWith p (c :: r) = true
      -- A match begins here, and the gap before it is kept.
      · rw [occurrencesFrom_of_startsWith hstart, replaceFrom_of_startsWith new hstart, List.map_cons]
        have hlen : p.length = p.length - 1 + 1 :=
          (Nat.sub_add_cancel (List.length_pos_iff.mpr hp)).symm
        have hrec := ih [] (i + p.length) (i + 1) (p.length - 1) n (by simp; omega) (.inr rfl)
          (Nat.le_of_succ_le_succ hn)
        have hdrop : (gap ++ c :: r).drop (i + p.length - pos) = r.drop (p.length - 1) := by
          rw [show i + p.length - pos = gap.length + (p.length - 1 + 1) by omega, List.drop_append]
          simp
        have htake : (gap ++ c :: r).take (i - pos) = gap := by
          rw [show i - pos = gap.length by omega, List.take_left]
        rw [replaceHits_constantly_cons (replaceFrom p new r n (p.length - 1))]
        · rw [occurrenceHit, htake, List.append_assoc]
        · rw [occurrenceHit, hdrop]
          exact hrec
      -- The character goes to the gap.
      · rw [occurrencesFrom_of_not_startsWith hstart, replaceFrom_of_not_startsWith new hstart]
        have hrec := ih (gap ++ [c]) pos (i + 1) 0 (n + 1) (by simp; omega) (.inl rfl)
          (Nat.le_of_succ_le hn)
        rwa [List.drop_zero, List.append_assoc, List.append_assoc, List.singleton_append,
          List.singleton_append] at hrec

/-- The empty pattern matches at every place of a text. -/
theorem replaceHits_everywhere (new : List Char) (s : List Char) :
    ∀ (gap : List Char) (pos : Nat),
      replaceHits (constantly new) pos (gap ++ s)
          ((List.range' (pos + gap.length) (s.length + 1)).map (occurrenceHit [])) =
        pure (gap ++ interleave new s (s.length + 1)) := by
  induction s with
  | nil =>
    intro gap pos
    rw [List.length_nil, List.range'_one, List.map_cons, List.map_nil,
      replaceHits_constantly_cons [] (by simp [occurrenceHit, replaceHits])]
    simp [occurrenceHit, interleave]
  | cons c r ih =>
    intro gap pos
    have hrec := ih [c] (pos + gap.length)
    rw [List.length_cons, List.range'_succ, List.map_cons,
      replaceHits_constantly_cons (c :: interleave new r (r.length + 1))]
    · simp [occurrenceHit, interleave]
    · simpa [occurrenceHit] using hrec

/-- Putting a text for every occurrence of a literal pattern, match by match, is `replaceAll`. -/
theorem replaceHits_occurrences (p new s : List Char) :
    replaceHits (constantly new) 0 s ((occurrences p s).map (occurrenceHit p)) =
      pure (replaceAll p new s) := by
  rw [occurrences, replaceAll, replaceUpTo]
  by_cases hp : p = []
  · subst hp
    simpa [List.range_eq_range'] using replaceHits_everywhere new s [] 0
  · have hne : ¬p.isEmpty = true := by simpa using hp
    rw [if_neg hne, if_neg hne]
    exact replaceHits_occurrencesFrom new hp s [] 0 0 0 (s.length + 1) rfl (.inl rfl)
      (Nat.le_succ _)

/-- Where a literal pattern does not occur, nothing is replaced. -/
theorem replaceAll_of_occurrences_eq_nil {p s : List Char} (new : List Char)
    (h : occurrences p s = []) : replaceAll p new s = s := by
  have hloop := congrFun (replaceHits_occurrences p new s) {}
  rw [h] at hloop
  injection hloop with htext _
  exact htext.symm

end Stencil
