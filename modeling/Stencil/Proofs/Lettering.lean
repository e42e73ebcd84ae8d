import Mathlib.Data.List.Basic
import Stencil.Proofs.Effects
import Stencil.Proofs.Matching
/-!
# Stencil.Proofs.Lettering -- patterns with words in them

A pattern that is written down once and for all can be read by going through its text. One that has a
name in it, which may be any, cannot. Its characters are read one at a time, though, and a character
that is no mark stands for itself, whatever has been read before it and whatever is behind it. So the
parts of such a pattern are those before the name, the signs of the name, and those behind it.
-/

namespace Stencil.Pattern

/-! ## A character at a time -/

theorem tokenAt_cons {c : Char} (hc : c ≠ '\\') (r : List Char) : tokenAt (c :: r) = some [c] := by
  rw [tokenAt]
  simp [hc]

section Reading

variable {c : Char} {r w : List Char} {s t : Progress}

theorem next_of_cons (hs : s.rest = c :: r) (hc : c ≠ '\\') : next s = .ok (some [c]) s := by
  show EStateM.Result.ok (tokenAt s.rest) s = _
  rw [hs, tokenAt_cons hc]

theorem next_of_nil (hs : s.rest = []) : next s = .ok none s := by
  show EStateM.Result.ok (tokenAt s.rest) s = _
  rw [hs]
  rfl

theorem checkEnd_of_ne (h : s.rest ≠ ['\\']) : checkEnd s = .ok () s := by
  rw [checkEnd, get_bind, if_neg (by simpa using h)]
  rfl

theorem advance_of_cons (hs : s.rest = c :: r) (hc : c ≠ '\\') (hr : r ≠ ['\\']) :
    advance s = .ok () { s with rest := r, pos := s.pos + 1 } := by
  have hstep : advance s = checkEnd { s with
      rest := s.rest.drop ((tokenAt s.rest).getD []).length
      pos := s.pos + ((tokenAt s.rest).getD []).length } := rfl
  rw [hstep, hs, tokenAt_cons hc]
  exact checkEnd_of_ne hr

/-- The characters that do not stand for themselves. -/
def marks : List Char := ['\\', '|', ')', '[', '*', '+', '?', '\x7b', '.', '^', '$', '(']

/-- A character that is no mark is read as its sign. -/
theorem parts_of_literal (hc : c ∉ marks) (first : Bool) (so : List Node) (fuel : Nat)
    (hs : s.rest = c :: r) (hr : r ≠ ['\\']) :
    parts {} first so (fuel + 1) s =
      parts {} first (sign c :: so) fuel { s with rest := r, pos := s.pos + 1 } := by
  simp only [marks, List.mem_cons, List.not_mem_nil, or_false, not_or] at hc
  obtain ⟨hescape, hbar, hclose, hclass, hstar, hplus, hoptional, hbrace, hdot, hcaret, hdollar,
    hopen⟩ := hc
  rw [parts, get_bind, bind_of_ok (next_of_cons hs hescape)]
  change EStateM.run _ _ = _
  split
  · next h => cases h
  · next h => exact absurd (List.head_eq_of_cons_eq (Option.some.inj h)) hbar
  · next h => exact absurd (List.head_eq_of_cons_eq (Option.some.inj h)) hclose
  · next h => cases h
  · next h =>
    cases h
    rw [EStateM.run, bind_of_ok (advance_of_cons hs hescape hr)]
    simp [hclass, hstar, hplus, hoptional, hbrace, hdot, hcaret, hdollar, hopen, sign]
  · next h => cases h

/-- A word without marks is read as its signs. -/
theorem parts_of_word (hw : ∀ c ∈ w, c ∉ marks) (first : Bool) (so : List Node) (fuel : Nat)
    (hs : s.rest = w ++ r) (hr : r ≠ ['\\']) :
    parts {} first so (fuel + w.length) s =
      parts {} first ((w.map sign).reverse ++ so) fuel
        { s with rest := r, pos := s.pos + w.length } := by
  induction w generalizing s so with
  | nil =>
    obtain ⟨rest⟩ := s
    obtain rfl : rest = r := hs
    rfl
  | cons c w ih =>
    have hrest : w ++ r ≠ ['\\'] := by
      cases w with
      | nil => exact hr
      | cons d w =>
        intro h
        refine hw d (List.mem_cons_of_mem c List.mem_cons_self) ?_
        rw [List.head_eq_of_cons_eq h]
        exact List.mem_cons_self
    rw [List.length_cons, ← Nat.add_assoc,
      parts_of_literal (hw c List.mem_cons_self) first so _ hs hrest,
      ih (fun d hd => hw d (List.mem_cons_of_mem c hd)) _ rfl]
    simp [Nat.add_assoc, Nat.add_comm 1]

/-! ## Whole patterns -/

/-- Where nothing is left there is no further alternative. -/
theorem moreAlternatives_of_nil (hs : s.rest = []) (flags : Flags) (top : Bool) (fuel : Nat) :
    moreAlternatives flags top fuel s = .ok [] s := by
  cases fuel with
  | zero => rfl
  | succ fuel =>
    have haccept : accept '|' s = .ok false s := by
      rw [accept, bind_of_ok (next_of_nil hs)]
      rfl
    rw [moreAlternatives, bind_of_ok haccept]
    rfl

/-- A pattern that is read to its end as some parts is read as these. -/
theorem readWhole_of_parts {fuel : Nat} {n : Node} (hend : s.rest ≠ ['\\'])
    (hparts : parts {} true [] fuel s = .ok n t) (hrest : t.rest = []) (hflags : t.flags = {})
    (hnamed : t.named = []) (hwell : n.looksBehindWell t.groupWidth = true) :
    readWhole (fuel + 1) s = .ok n t := by
  have halternatives : alternatives {} true (fuel + 1) s = .ok n t := by
    rw [alternatives, bind_of_ok hparts, bind_of_ok (moreAlternatives_of_nil hrest {} true fuel)]
    rfl
  rw [readWhole, bind_of_ok (checkEnd_of_ne hend), bind_of_ok halternatives, get_bind]
  simp [hrest, hflags, hnamed, hwell]

end Reading

theorem allLookBehindWell_append (groups : Nat → Nat × Nat) (ns ms : List Node) :
    allLookBehindWell groups (ns ++ ms) =
      (allLookBehindWell groups ns && allLookBehindWell groups ms) := by
  induction ns with
  | nil => rfl
  | cons n ns ih => rw [List.cons_append, allLookBehindWell, allLookBehindWell, ih, Bool.and_assoc]

theorem allLookBehindWell_word (groups : Nat → Nat × Nat) (w : List Char) :
    allLookBehindWell groups (w.map sign) = true := by
  induction w with
  | nil => rfl
  | cons c w ih => rw [List.map_cons, allLookBehindWell, ih]; rfl

end Stencil.Pattern
