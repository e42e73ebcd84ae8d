import Stencil.Generator
/-!
# Stencil.Proofs.Cells -- the cells a template leaves behind

Comparing cells finds nothing where nothing has been changed, so a template that leaves the cells it
found as they were gives up all others.
-/

namespace Stencil

namespace Expr

mutual

theorem sameValue_self (v : Value) : sameValue v v = true := by
  cases v with
  | tuple items =>
    rw [sameValue]
    exact sameValues_self items
  | slice a b c => simp [sameValue, sameValue_self a, sameValue_self b, sameValue_self c]
  | bound v name => simp [sameValue, sameValue_self v]
  | _ => simp [sameValue]

theorem sameValues_self (vs : List Value) : sameValues vs vs = true := by
  cases vs with
  | nil => rw [sameValues]
  | cons v vs => simp [sameValues, sameValue_self v, sameValues_self vs]

end

theorem sameIter_self (it : Iter) : sameIter it it = true := by
  cases it with
  | fixed vs => exact sameValues_self vs
  | _ => simp [sameIter]

theorem sameRows_self {α : Type} {same : α → α → Bool} (h : ∀ a, same a a = true) (as : List α) :
    sameRows same as as = true := by
  induction as with
  | nil => rfl
  | cons a as ih => rw [sameRows, h, ih, Bool.and_self]

theorem samePlace_self (p : Option Entry) : samePlace p p = true := by
  cases p with
  | none => rfl
  | some e => simp [samePlace, sameEntry, sameValue_self]

theorem sameSlot_self (s : Slot) : sameSlot s s = true := by
  cases s with
  | free | marked => rfl
  | taken m => exact sameValue_self m.shown

theorem sameCell_self (c : Cell) : sameCell c c = true := by
  cases c with
  | list items => exact sameValues_self _
  | dict table => simp [sameCell, sameDict, sameRows_self samePlace_self]
  | set table => simp [sameCell, sameSet, sameRows_self sameSlot_self]
  | iterator it => exact sameIter_self it

/-- Cells that are there again are the same. -/
theorem sameCells_of_kept {before after : Array Cell}
    (h : ∀ i < before.size, after[i]? = before[i]?) : sameCells before after = true := by
  have htake : after.toList.take before.size = before.toList := by
    refine List.ext_getElem? fun i => ?_
    by_cases hi : i < before.size
    · rw [List.getElem?_take_of_lt hi, Array.getElem?_toList, Array.getElem?_toList, h i hi]
    · rw [List.getElem?_eq_none (by simp; omega), List.getElem?_eq_none (by simp; omega)]
  rw [sameCells, htake]
  exact sameRows_self sameCell_self _

end Expr

namespace Generator

open Stencil.Expr

/-- A template that has left the cells it found as they were has left nothing else. -/
theorem settled_of_same {before after : Machine}
    (h : sameCells before.cells (settled before after).cells = true) :
    (settled before after).cells = before.cells := by
  by_cases hsame : sameCells before.cells after.cells = true
  · rw [settled, if_pos hsame]
  · rw [settled, if_neg hsame] at h
    exact absurd h hsame

theorem settled_of_kept {before after : Machine}
    (h : ∀ i < before.cells.size, (settled before after).cells[i]? = before.cells[i]?) :
    (settled before after).cells = before.cells :=
  settled_of_same (sameCells_of_kept h)

end Generator

end Stencil
