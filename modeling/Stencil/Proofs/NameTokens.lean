import Mathlib
import Stencil.Expr.Token
import Stencil.Proofs.Blanks
/-!
# Stencil.Proofs.NameTokens -- the tokens of a name

A text that is an identifier is cut into one name, to which the end of the line and the end of the
text are added: the run of characters that may stand in a name is the whole text, and none of the
characters starts a token of another kind.
-/

namespace Stencil.Expr

open Stencil.Text

/-! ## Characters of names -/

section Characters

variable {c d : Char} {s : List Char}

theorem mayBeName_of_continues (h : continuesIdentifier c) : mayBeName c := by
  unfold continuesIdentifier at h
  split at h
  · simp only [Char.isAlphanum, Char.isAlpha, Char.isUpper, Char.isLower, Bool.or_eq_true,
      Bool.and_eq_true, decide_eq_true_eq, beq_iff_eq] at h
    simp only [mayBeName, Bool.or_eq_true, Bool.and_eq_true, decide_eq_true_eq, beq_iff_eq,
      Char.le_def]
    tauto
  · rename_i hc
    simp [mayBeName, Nat.le_of_not_lt hc]

theorem mayBeName_of_starts (h : startsIdentifier c) : mayBeName c := by
  by_cases hc : c.toNat < 128
  · refine mayBeName_of_continues ?_
    rw [startsIdentifier, if_pos hc] at h
    rw [continuesIdentifier, if_pos hc, Char.isAlphanum]
    simp only [Bool.or_eq_true] at h ⊢
    tauto
  · simp [mayBeName, Nat.le_of_not_lt hc]

theorem isDigit_of_starts (h : startsIdentifier c) : c.isDigit = false := by
  rw [Bool.eq_false_iff]
  intro hdigit
  simp only [Char.isDigit, Bool.and_eq_true, decide_eq_true_eq, UInt32.le_iff_toNat_le,
    ge_iff_le] at hdigit
  change 48 ≤ c.toNat ∧ c.toNat ≤ 57 at hdigit
  rw [startsIdentifier, if_pos (by omega)] at h
  simp only [Char.isAlpha, Char.isUpper, Char.isLower, Bool.or_eq_true, Bool.and_eq_true,
    decide_eq_true_eq, beq_iff_eq, UInt32.le_iff_toNat_le, ge_iff_le] at h
  rcases h with h | rfl
  · change (65 ≤ c.toNat ∧ c.toNat ≤ 90) ∨ (97 ≤ c.toNat ∧ c.toNat ≤ 122) at h
    omega
  · exact absurd hdigit (by decide)

/-- A character of a name is told from one that cannot stand in a name. -/
theorem ne_of_mayBeName (hc : mayBeName c) (hd : mayBeName d = false) : c ≠ d := by
  rintro rfl
  rw [hd] at hc
  cases hc

theorem unifyLines_eq (h : ∀ c ∈ s, c ≠ '\n' ∧ c ≠ '\r') : unifyLines s = s ++ ['\n'] := by
  fun_induction unifyLines s with
  | case1 => rfl
  | case7 c r =>
    rename_i ih
    rw [ih fun d hd => h d (List.mem_cons_of_mem c hd), List.cons_append]
  | _ => simp at h

theorem textStart?_eq_none (h : ∀ c ∈ s, c ≠ '"' ∧ c ≠ '\x27') : textStart? s = none := by
  have hmarks : (s.take 3).takeWhile (fun c => c != '"' && c != '\x27') = s.take 3 := by
    refine List.takeWhile_eq_self_iff.mpr fun c hc => ?_
    simpa using h c (List.mem_of_mem_take hc)
  unfold textStart?
  simp only [hmarks]
  cases hrest : s.drop (s.take 3).length with
  | nil => simp
  | cons q r =>
    have hq := h q (List.mem_of_mem_drop (hrest ▸ List.mem_cons_self))
    simp [hq]

end Characters

/-! ## Cutting a name -/

section Cutting

variable {s : List Char}

theorem mayBeName_of_mem (h : isIdentifier s) : ∀ c ∈ s, mayBeName c := by
  cases s with
  | nil => simp
  | cons d r =>
    rw [isIdentifier, Bool.and_eq_true, List.all_eq_true] at h
    intro c hc
    rcases List.mem_cons.mp hc with rfl | hc
    · exact mayBeName_of_starts h.1
    · exact mayBeName_of_continues (h.2 c hc)

theorem strayInName_eq_none (h : isIdentifier s) : strayInName s = none := by
  cases s with
  | nil => cases h
  | cons d r =>
    rw [isIdentifier, Bool.and_eq_true, List.all_eq_true] at h
    rw [strayInName, if_pos h.1, List.find?_eq_none]
    intro c hc
    simp [h.2 c hc]

namespace Cut

variable {c : Cut} {d : Char} {r : List Char}

/-- What starts with a character of a name does not start with any other. -/
theorem rest_ne (hrest : c.rest = d :: r) (hd : mayBeName d) {e : Char} {r' : List Char}
    (he : mayBeName e = false) : c.rest ≠ e :: r' := by
  rw [hrest]
  exact fun h => ne_of_mayBeName hd he (List.cons.inj h).1

theorem indentation_eq (hrest : c.rest = d :: r) (hd : mayBeName d) (fuel : Nat) :
    c.indentation 0 0 none fuel = .ok (c, 0, 0) := by
  cases fuel with
  | zero => rfl
  | succ fuel =>
    unfold indentation
    split
    case h_5 => rfl
    all_goals rename_i h; exact absurd h (rest_ne hrest hd (by decide))

/-- A line that starts with a character of a name is not indented. -/
theorem startLine_eq (hrest : c.rest = d :: r) (hd : mayBeName d) (hblocks : c.blocks = [(0, 0)]) :
    c.startLine = .ok { c with atLineStart := false } := by
  have hlayout : c.layOut 0 0 = .ok c := by
    rw [layOut, hblocks]
    rfl
  rw [startLine, indentation_eq hrest hd]
  simp only [bind, Except.bind]
  split
  case h_3 =>
    rw [hlayout]
    split <;> rfl
  all_goals rename_i h; exact absurd h (rest_ne hrest hd (by decide))

/-- A token that starts like an identifier, and not like a text, is a name. -/
theorem takeToken_eq (hrest : c.rest = d :: r) (hd : startsIdentifier d)
    (htext : textStart? c.rest = none) : c.takeToken = c.takeName := by
  have hname := mayBeName_of_starts hd
  have hblanks : c.rest.dropWhile (fun e => e == ' ' || e == '\t' || e == '\x0c') = c.rest := by
    refine dropWhile_eq_self fun e he => ?_
    rw [hrest] at he
    cases he
    simp [ne_of_mayBeName hname (d := ' ') (by decide),
      ne_of_mayBeName hname (d := '\t') (by decide), ne_of_mayBeName hname (d := '\x0c') (by decide)]
  have hcomment : (c.rest.head? == some '#') = false := by
    simpa [hrest] using ne_of_mayBeName hname (by decide)
  rw [takeToken, hblanks, hcomment, if_neg Bool.false_ne_true]
  dsimp only
  split
  case h_4 e r' _ _ he =>
    obtain ⟨rfl, rfl⟩ := List.cons.inj (hrest.symm.trans he)
    have hdigit : ¬(d.isDigit || d == '.' && r.head?.any Char.isDigit) = true := by
      simp [isDigit_of_starts hd, ne_of_mayBeName hname (d := '.') (by decide)]
    rw [htext]
    dsimp only
    rw [if_neg hdigit, if_pos hname]
  case h_1 h => cases hrest.symm.trans h
  all_goals rename_i h; exact absurd h (rest_ne hrest hname (by decide))

/-- An identifier at the end of a line is taken whole. -/
theorem takeName_eq {s : List Char} (hrest : c.rest = s ++ ['\n']) (hs : isIdentifier s) :
    c.takeName = .ok ((c.push .name s).goOn ['\n']) := by
  have hall := mayBeName_of_mem hs
  have hend : ∀ e, (['\n'] : List Char).head? = some e → mayBeName e = false := by
    rintro e ⟨⟩
    decide
  rw [takeName, hrest, takeWhile_append_of_stop hall hend, dropWhile_append_of_stop hall hend,
    strayInName_eq_none hs, ite_self]

theorem run_of_startLine {c' : Cut} {fuel : Nat} (hstart : c.atLineStart = true)
    (h : c.startLine = .ok c') : c.run (fuel + 1) = c'.run fuel := by
  rw [run, if_pos hstart, h]

theorem run_of_takeToken {c' : Cut} {fuel : Nat} (hstart : c.atLineStart = false)
    (h : c.takeToken = .ok c') : c.run (fuel + 1) = c'.run fuel := by
  rw [run, if_neg (by rw [hstart]; exact Bool.false_ne_true), h]

/-- What comes behind a name alone: the end of its line and the end of the text. -/
theorem run_newline (tokens : Array Token) (fuel : Nat) :
    ({ rest := ['\n'], atLineStart := false, tokens } : Cut).run (fuel + 4) =
      ⟨(tokens.push ⟨.newline, "", 1, 0⟩).push ⟨.finish, "", 1, 0⟩, .complete⟩ := rfl

end Cut

/-- The tokens of a text that is a name. -/
def nameTokens (s : List Char) : Tokens :=
  ⟨#[⟨.name, String.ofList s, 1, 0⟩, ⟨.newline, "", 1, 0⟩, ⟨.finish, "", 1, 0⟩], .complete⟩

/-- **An identifier is cut into one name.** -/
theorem ofText_eq_nameTokens (hs : isIdentifier s) : Tokens.ofText 1 s = nameTokens s := by
  have hall := mayBeName_of_mem hs
  have hlines : unifyLines s = s ++ ['\n'] := unifyLines_eq fun c hc =>
    ⟨ne_of_mayBeName (hall c hc) (by decide), ne_of_mayBeName (hall c hc) (by decide)⟩
  have htext : textStart? (s ++ ['\n']) = none := by
    refine textStart?_eq_none fun c hc => ?_
    rcases List.mem_append.mp hc with hc | hc
    · exact ⟨ne_of_mayBeName (hall c hc) (by decide), ne_of_mayBeName (hall c hc) (by decide)⟩
    · rw [List.mem_singleton.mp hc]
      decide
  obtain ⟨d, r, rfl⟩ : ∃ d r, s = d :: r := by
    cases s with
    | nil => cases hs
    | cons d r => exact ⟨d, r, rfl⟩
  have hd : startsIdentifier d := (Bool.and_eq_true _ _ ▸ hs).1
  have hname := mayBeName_of_starts hd
  have hfuel : 2 * (d :: r ++ ['\n']).length + 3 = 2 * r.length + 1 + 4 + 1 + 1 := by
    simp only [List.length_append, List.length_cons, List.length_nil]
    omega
  have hline := Cut.startLine_eq (c := { rest := d :: r ++ ['\n'], line := 1 }) rfl hname rfl
  have htoken := Cut.takeToken_eq
    (c := { rest := d :: r ++ ['\n'], line := 1, atLineStart := false }) rfl hd htext
  rw [Tokens.ofText, hlines, hfuel, Cut.run_of_startLine rfl hline,
    Cut.run_of_takeToken rfl (htoken.trans (Cut.takeName_eq rfl hs))]
  exact Cut.run_newline _ _

end Cutting

end Stencil.Expr
