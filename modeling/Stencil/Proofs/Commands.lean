import Stencil.Command
import Stencil.Proofs.Blanks
/-!
# Stencil.Proofs.Commands -- reading command lines

What a line behind the trigger is read as.
-/

namespace Stencil

open Stencil.Text

namespace Command

/-! ## Names -/

theorem startsName_iff (c : Char) : startsName c = true ↔
    (97 ≤ c.toNat ∧ c.toNat ≤ 122 ∨ 65 ≤ c.toNat ∧ c.toNat ≤ 90) ∨ c.toNat = 95 := by
  have hunder : c = '_' ↔ c.toNat = 95 := by rw [← Char.toNat_inj]; rfl
  have hle : ∀ a : Char, a ≤ c ↔ a.toNat ≤ c.toNat := fun _ => Iff.rfl
  have hge : ∀ a : Char, c ≤ a ↔ c.toNat ≤ a.toNat := fun _ => Iff.rfl
  simp [startsName, hle, hge, hunder]

theorem inName_iff (c : Char) : inName c = true ↔
    startsName c = true ∨ 48 ≤ c.toNat ∧ c.toNat ≤ 57 := by
  have hle : ∀ a : Char, a ≤ c ↔ a.toNat ≤ c.toNat := fun _ => Iff.rfl
  have hge : ∀ a : Char, c ≤ a ↔ c.toNat ≤ a.toNat := fun _ => Iff.rfl
  simp [inName, hle, hge]

theorem isBlank_of_inName {c : Char} (h : inName c = true) : isBlank c = false := by
  rw [inName_iff, startsName_iff] at h
  simp only [isBlank, Bool.or_eq_false_iff, Bool.and_eq_false_iff, decide_eq_false_iff_not,
    beq_eq_false_iff_ne]
  omega

/-- A name is split off where a colon follows what looks like one. -/
theorem loopName_cases (s : List Char) :
    (∃ c r left, s = c :: r ∧ startsName c = true ∧
      (r.dropWhile inName).dropWhile isBlank = ':' :: left ∧
      loopName s = (some (String.ofList (c :: r.takeWhile inName)), left)) ∨
    (∀ c r left, s = c :: r → startsName c = true →
      (r.dropWhile inName).dropWhile isBlank ≠ ':' :: left) ∧ loopName s = (none, s) := by
  cases s with
  | nil => exact .inr ⟨fun c r _ h => absurd h.symm (List.cons_ne_nil c r), rfl⟩
  | cons c r =>
    cases hc : startsName c with
    | false =>
      refine .inr ⟨?_, by simp [loopName, hc]⟩
      rintro _ _ _ ⟨⟩ hc'
      rw [hc] at hc'
      cases hc'
    | true =>
      by_cases hcolon : ∃ left, (r.dropWhile inName).dropWhile isBlank = ':' :: left
      · obtain ⟨left, hleft⟩ := hcolon
        exact .inl ⟨c, r, left, rfl, hc, hleft, by simp [loopName, hc, hleft]⟩
      · refine .inr ⟨?_, ?_⟩
        · rintro _ _ left ⟨⟩ - hleft
          exact hcolon ⟨left, hleft⟩
        · rw [loopName, if_pos hc]
          split
          · next left hleft => exact absurd ⟨left, hleft⟩ hcolon
          · rfl

/-! ## Kinds -/

theorem kindByWord_normalize {s r : List Char}
    (h : (afterPrefix? "normalise".toList s).or (afterPrefix? "normalize".toList s) = some r) :
    kindByWord s =
      match readOptions r with
      | some os => .normalize os
      | none => .unknown := by
  have horElse : (afterPrefix? "normalise".toList s <|> afterPrefix? "normalize".toList s) =
      some r := Option.orElse_eq_or.trans h
  rw [kindByWord]
  exact horElse ▸ rfl

theorem kindByWord_filename (r : List Char) :
    kindByWord ("filename".toList ++ r) =
      match readPath r with
      | some p => .filename p
      | none => .unknown := rfl

theorem kindByWord_cases (s : List Char) :
    (∃ r os, (afterPrefix? "normalise".toList s).or (afterPrefix? "normalize".toList s) = some r ∧
      readOptions r = some os ∧ kindByWord s = .normalize os) ∨
    (∃ r p, afterPrefix? "filename".toList s = some r ∧ readPath r = some p ∧
      kindByWord s = .filename p) ∨
    kindByWord s = .unknown := by
  cases hstem : (afterPrefix? "normalise".toList s).or (afterPrefix? "normalize".toList s) with
  | some r =>
    rw [kindByWord_normalize hstem]
    cases hos : readOptions r with
    | some os => exact .inl ⟨r, os, rfl, hos, rfl⟩
    | none => exact .inr (.inr rfl)
  | none =>
    have horElse : (afterPrefix? "normalise".toList s <|> afterPrefix? "normalize".toList s) =
        none := Option.orElse_eq_or.trans hstem
    rw [kindByWord, horElse]
    cases hname : afterPrefix? "filename".toList s with
    | none => exact .inr (.inr rfl)
    | some r =>
      cases hp : readPath r with
      | none => exact .inr (.inr (by simp only [hp]))
      | some p => exact .inr (.inl ⟨r, p, rfl, hp, by simp only [hp]⟩)

/-- Only what starts with three opening brackets opens a block. -/
theorem kindOf_eq_blockOpen {s : List Char} {h : LoopHeader} (hkind : kindOf s = .blockOpen h) :
    ∃ r, s = "<<<".toList ++ r ∧ h = readLoop r := by
  unfold kindOf at hkind
  split at hkind
  case h_7 r => exact ⟨r, rfl, (CommandKind.blockOpen.inj hkind).symm⟩
  case h_13 =>
    rcases kindByWord_cases s with ⟨r, os, -, -, hword⟩ | ⟨r, p, -, -, hword⟩ | hword
    all_goals exact absurd (hword.symm.trans hkind) nofun
  all_goals exact absurd hkind nofun

/-! ## Lines behind the trigger -/

/-- A line is split at the trigger behind its blanks. -/
theorem split?_trigger {indent : List Char} (hindent : ∀ c ∈ indent, isBlank c = true)
    (body : List Char) : split? (indent ++ (trigger.toList ++ body)) =
      if body.contains '\n' then none else some (indent, body) := by
  have hslash : ∀ c, (trigger.toList ++ body).head? = some c → isBlank c = false := by
    rintro _ ⟨⟩
    decide
  have hbody : afterPrefix? trigger.toList
      ((indent ++ (trigger.toList ++ body)).dropWhile isBlank) = some body := by
    rw [dropWhile_append_of_stop hindent hslash, afterPrefix?_eq_some_iff]
  rw [split?, hbody, takeWhile_append_of_stop hindent hslash]

/-- A line is a command when the trigger stands behind blanks and what follows is one line. -/
theorem split?_eq_some_iff {line indent body : List Char} :
    split? line = some (indent, body) ↔
      line = indent ++ (trigger.toList ++ body) ∧ (∀ c ∈ indent, isBlank c = true) ∧
        '\n' ∉ body := by
  constructor
  · intro h
    rw [split?] at h
    split at h
    · next body' hbody =>
      obtain ⟨hline, ⟨⟩⟩ := Option.ite_none_left_eq_some.mp h
      refine ⟨?_, fun c => List.mem_takeWhile_imp, by simpa using hline⟩
      rw [← afterPrefix?_eq_some_iff.mp hbody, List.takeWhile_append_dropWhile]
    · exact absurd h nofun
  · rintro ⟨rfl, hindent, hline⟩
    rw [split?_trigger hindent]
    exact if_neg (by simpa using hline)

/-- What a line that is a command consists of. -/
theorem classify_eq_some_iff {line : String} {c : Command} : classify line = some c ↔
    ∃ indent body, line.toList = indent ++ (trigger.toList ++ body) ∧
      (∀ b ∈ indent, isBlank b = true) ∧ '\n' ∉ body ∧
        c = ⟨kindOf (trim body), String.ofList (trim body), String.ofList indent⟩ := by
  rw [classify, Option.map_eq_some_iff]
  constructor
  · rintro ⟨⟨indent, body⟩, hsplit, rfl⟩
    obtain ⟨hline, hindent, hbody⟩ := split?_eq_some_iff.mp hsplit
    exact ⟨indent, body, hline, hindent, hbody, rfl⟩
  · rintro ⟨indent, body, hline, hindent, hbody, rfl⟩
    exact ⟨(indent, body), split?_eq_some_iff.mpr ⟨hline, hindent, hbody⟩, rfl⟩

/-- A line that starts with the trigger and goes on in one line is a command without indentation. -/
theorem classify_trigger {body : List Char} (hline : '\n' ∉ body) :
    classify (trigger ++ String.ofList body) =
      some ⟨kindOf (trim body), String.ofList (trim body), ""⟩ := by
  refine classify_eq_some_iff.mpr ⟨[], body, ?_, nofun, hline, rfl⟩
  rw [String.toList_append, String.toList_ofList]
  rfl

end Command

end Stencil
