import Stencil.Proofs.Readings
/-!
# Stencil.Proofs.Classification -- no two forms share a text

Two patterns of commands match one text only when the text is three closing brackets, which end a
block and would also be an insertion. So it does not matter in which order the patterns are tried,
as long as the end of a block comes before an insertion, and what a text demands can be told from
how it starts.
-/

namespace Stencil

open Stencil.Text Stencil.Pattern

namespace CommandForm

/-- What the texts of a form look like. -/
def Describes : CommandForm → List Char → Prop
  | comment, s => "--".toList <+: s ∧ ¬"-->".toList <+: s
  | replacement, s => "->".toList <+: s ∨ "-->".toList <+: s
  | matchPlain, s => "=".toList <+: s
  | matchRegex, s => "~".toList <+: s
  | blockOpen, s => "<<<".toList <+: s
  | blockClose, s => s = ">>>".toList
  | eval, s => ∃ r, s = '!' :: r ∧ r ≠ []
  | insert, s => s ≠ ">>>".toList ∧ ∃ r, s = '>' :: r ∧ r ≠ []
  | normalize, s => ∃ r, (s = "normalise".toList ++ r ∨ s = "normalize".toList ++ r) ∧
      (∃ c, r.head? = some c ∧ isBlank c = true) ∧
      words r ≠ [] ∧ ∀ w ∈ words r, w = "spaces".toList
  | filename, s => ∃ r, s = "filename".toList ++ r ∧
      (∃ c, r.head? = some c ∧ isBlank c = true) ∧ ∃ w, words r = [w]

end CommandForm

/-- The form of a command that says something. -/
def CommandKind.form? : CommandKind → Option CommandForm
  | comment => some .comment
  | replacement _ => some .replacement
  | pattern .plain _ => some .matchPlain
  | pattern .regex _ => some .matchRegex
  | blockOpen _ => some .blockOpen
  | blockClose => some .blockClose
  | eval _ => some .eval
  | insert _ => some .insert
  | normalize _ => some .normalize
  | filename _ => some .filename
  | blank | unknown => none

namespace CommandForm

/-! ## Kinds by their signs -/

theorem kindOf_comment {r : List Char} (h : r.head? ≠ some '>') :
    Command.kindOf ('-' :: '-' :: r) = .comment := by
  unfold Command.kindOf
  split <;> simp_all

theorem kindOf_eval {r : List Char} (h : r ≠ []) :
    Command.kindOf ('!' :: r) = .eval (Command.trimmed r) := by
  obtain ⟨c, r, rfl⟩ := List.exists_cons_of_ne_nil h
  rfl

theorem kindOf_insert {r : List Char} (h : r ≠ []) (hclose : r ≠ ['>', '>']) :
    Command.kindOf ('>' :: r) = .insert (Command.trimmed r) := by
  unfold Command.kindOf
  split <;> simp_all

theorem after_eq_some_iff {α : Type} {w s : List Char} {g : List Char → Option α} {a : α} :
    (afterPrefix? w s).bind g = some a ↔ ∃ r, s = w ++ r ∧ g r = some a := by
  simp only [Option.bind_eq_some_iff, afterPrefix?_eq_some_iff]

theorem isSome_after {α : Type} {w s : List Char} (g : List Char → Option α) :
    ((afterPrefix? w s).bind g).isSome ↔ ∃ r, s = w ++ r ∧ (g r).isSome := by
  simp only [Option.isSome_iff_exists, after_eq_some_iff]
  constructor
  · rintro ⟨a, r, hr, ha⟩
    exact ⟨r, hr, a, ha⟩
  · rintro ⟨r, hr, a, ha⟩
    exact ⟨a, r, hr, ha⟩

theorem isSome_prefix {α : Type} {w s : List Char} (g : List Char → α) :
    ((afterPrefix? w s).bind fun r => some (g r)).isSome ↔ w <+: s := by
  rw [isSome_after]
  constructor
  · rintro ⟨r, rfl, -⟩
    exact ⟨r, rfl⟩
  · rintro ⟨r, rfl⟩
    exact ⟨r, rfl, rfl⟩

/-- The two spellings of a tidying command share no text. -/
theorem normalize_stem {s r : List Char} :
    (afterPrefix? "normalise".toList s).or (afterPrefix? "normalize".toList s) = some r ↔
      s = "normalise".toList ++ r ∨ s = "normalize".toList ++ r := by
  rw [Option.or_eq_some_iff, afterPrefix?_eq_some_iff, afterPrefix?_eq_some_iff]
  constructor
  · rintro (h | ⟨-, h⟩)
    · exact .inl h
    · exact .inr h
  · rintro (h | rfl)
    · exact .inl h
    · exact .inr ⟨rfl, rfl⟩

/-- Options are words behind blanks, and the words are all the same. -/
theorem isSome_readOptions (r : List Char) : (Command.readOptions r).isSome ↔
    (∃ c, r.head? = some c ∧ isBlank c = true) ∧ words r ≠ [] ∧
      ∀ w ∈ words r, w = "spaces".toList := by
  cases r with
  | nil =>
    refine ⟨nofun, ?_⟩
    rintro ⟨⟨c, hc, -⟩, -⟩
    exact absurd hc nofun
  | cons c u =>
    unfold Command.readOptions
    cases words (c :: u) with
    | nil => exact ⟨nofun, fun h => absurd rfl h.2.1⟩
    | cons w ws => simp

/-- A path is one word behind blanks. -/
theorem isSome_readPath (r : List Char) : (Command.readPath r).isSome ↔
    (∃ c, r.head? = some c ∧ isBlank c = true) ∧ ∃ w, words r = [w] := by
  cases r with
  | nil =>
    refine ⟨nofun, ?_⟩
    rintro ⟨⟨c, hc, -⟩, -⟩
    exact absurd hc nofun
  | cons c u =>
    unfold Command.readPath
    match words (c :: u) with
    | [] => simp
    | [w] => simp
    | w :: v :: ws => simp

/-- A text without blanks around it that is not empty is not blank. -/
theorem not_all_blank {r : List Char} (hlast : ∀ c, r.getLast? = some c → isBlank c = false)
    (hne : r ≠ []) : ¬r.all isBlank = true := by
  intro hall
  have hlast' := hlast _ (List.getLast?_eq_some_getLast hne)
  rw [List.all_eq_true.mp hall _ (List.getLast_mem hne)] at hlast'
  exact absurd hlast' nofun

/-- What must say something is read behind a prefix where something is there: what is there does not
end in a blank. -/
theorem isSome_something {w s : List Char} (hlast : ∀ c, s.getLast? = some c → isBlank c = false)
    (g : List Char → CommandKind) :
    ((afterPrefix? w s).bind fun r => if r.all isBlank then none else some (g r)).isSome ↔
      ∃ r, s = w ++ r ∧ r ≠ [] := by
  rw [isSome_after]
  constructor
  · rintro ⟨r, rfl, hsome⟩
    refine ⟨r, rfl, ?_⟩
    rintro rfl
    exact absurd hsome nofun
  · rintro ⟨r, rfl, hne⟩
    have hsome := not_all_blank (getLast?_of_suffix (List.suffix_append w r) hlast) hne
    exact ⟨r, rfl, by rw [if_neg hsome]; rfl⟩

/-! ## Readings and kinds -/

section Trimmed

variable {s : List Char} (hline : '\n' ∉ s) (htrim : trim s = s)
include hline htrim

/-- What a pattern reads is what the text demands, unless an insertion of three closing brackets is
read, which end a block. -/
theorem kindOf_of_reading {f : CommandForm} {k : CommandKind} (h : f.reading s = some k)
    (hclose : ¬(f = insert ∧ s = ">>>".toList)) : Command.kindOf s = k ∧ k.form? = some f := by
  have hlast : ∀ c, s.getLast? = some c → isBlank c = false := htrim ▸ getLast?_trim s
  cases f with
  | comment =>
    rw [reading_comment hline, after_eq_some_iff] at h
    obtain ⟨r, rfl, h⟩ := h
    obtain ⟨hhead, ⟨⟩⟩ := Option.ite_none_left_eq_some.mp h
    exact ⟨kindOf_comment hhead, rfl⟩
  | replacement =>
    rw [reading_replacement hline, Option.map_eq_some_iff] at h
    obtain ⟨r, hr, rfl⟩ := h
    rcases Option.or_eq_some_iff.mp hr with hr | ⟨-, hr⟩
    · obtain rfl := afterPrefix?_eq_some_iff.mp hr
      exact ⟨rfl, rfl⟩
    · obtain rfl := afterPrefix?_eq_some_iff.mp hr
      exact ⟨rfl, rfl⟩
  | matchPlain =>
    rw [reading_matchPlain hline, after_eq_some_iff] at h
    obtain ⟨r, rfl, ⟨⟩⟩ := h
    exact ⟨rfl, rfl⟩
  | matchRegex =>
    rw [reading_matchRegex hline, after_eq_some_iff] at h
    obtain ⟨r, rfl, ⟨⟩⟩ := h
    exact ⟨rfl, rfl⟩
  | blockOpen =>
    rw [reading_blockOpen hline, after_eq_some_iff] at h
    obtain ⟨r, rfl, ⟨⟩⟩ := h
    exact ⟨rfl, rfl⟩
  | blockClose =>
    rw [reading_blockClose hline, after_eq_some_iff] at h
    obtain ⟨r, rfl, h⟩ := h
    obtain ⟨rfl, ⟨⟩⟩ := Option.ite_none_right_eq_some.mp h
    exact ⟨rfl, rfl⟩
  | eval =>
    rw [reading_eval hline, after_eq_some_iff] at h
    obtain ⟨r, rfl, h⟩ := h
    obtain ⟨hsome, ⟨⟩⟩ := Option.ite_none_left_eq_some.mp h
    exact ⟨kindOf_eval (by rintro rfl; exact hsome rfl), rfl⟩
  | insert =>
    rw [reading_insert hline, after_eq_some_iff] at h
    obtain ⟨r, rfl, h⟩ := h
    obtain ⟨hsome, ⟨⟩⟩ := Option.ite_none_left_eq_some.mp h
    refine ⟨kindOf_insert (by rintro rfl; exact hsome rfl) ?_, rfl⟩
    rintro rfl
    exact hclose ⟨rfl, rfl⟩
  | normalize =>
    rw [reading_normalize hline hlast, Option.bind_eq_some_iff] at h
    obtain ⟨r, hr, h⟩ := h
    obtain ⟨os, hos, rfl⟩ := Option.map_eq_some_iff.mp h
    refine ⟨?_, rfl⟩
    have hword : Command.kindOf s = Command.kindByWord s := by
      rcases normalize_stem.mp hr with rfl | rfl <;> rfl
    rw [hword, Command.kindByWord_normalize hr, hos]
  | filename =>
    rw [reading_filename hline hlast, after_eq_some_iff] at h
    obtain ⟨r, rfl, h⟩ := h
    obtain ⟨p, hp, rfl⟩ := Option.map_eq_some_iff.mp h
    refine ⟨(Command.kindByWord_filename r).trans ?_, rfl⟩
    rw [hp]

/-- What a text demands is what the pattern of its form reads. -/
theorem reading_of_kindOf {f : CommandForm} (h : (Command.kindOf s).form? = some f) :
    f.reading s = some (Command.kindOf s) := by
  have hlast : ∀ c, s.getLast? = some c → isBlank c = false := htrim ▸ getLast?_trim s
  generalize hk : Command.kindOf s = k at h
  unfold Command.kindOf at hk
  split at hk <;> subst hk
  case h_13 =>
    rcases Command.kindByWord_cases s with ⟨r, os, hr, hos, hkind⟩ | ⟨r, p, hr, hp, hkind⟩ | hkind
    · rw [hkind] at h ⊢
      obtain rfl := Option.some.inj h
      rw [reading_normalize hline hlast, hr, Option.bind_some, hos, Option.map_some]
    · rw [hkind] at h ⊢
      obtain rfl := Option.some.inj h
      rw [reading_filename hline hlast, hr, Option.bind_some, hp, Option.map_some]
    · exact absurd (hkind ▸ h) nofun
  -- A sign alone demands nothing; every other sign tells the form.
  case h_1 | h_9 | h_11 => exact absurd h nofun
  all_goals obtain rfl := Option.some.inj h
  case h_2 | h_3 => rw [reading_replacement hline]; rfl
  case h_4 r hhead =>
    rw [reading_comment hline]
    refine if_neg fun hr => ?_
    obtain ⟨r', hr'⟩ := List.head?_eq_some_iff.mp hr
    exact hhead r' hr'
  case h_5 => rw [reading_matchPlain hline]; rfl
  case h_6 => rw [reading_matchRegex hline]; rfl
  case h_7 => rw [reading_blockOpen hline]; rfl
  case h_8 => rw [reading_blockClose hline]; rfl
  case h_10 r hsome =>
    rw [reading_eval hline]
    exact if_neg (not_all_blank (getLast?_of_suffix (List.suffix_cons _ _) hlast) hsome)
  case h_12 r _ hsome =>
    rw [reading_insert hline]
    exact if_neg (not_all_blank (getLast?_of_suffix (List.suffix_cons _ _) hlast) hsome)

/-- A text looks like a form when the pattern of the form reads it, unless it is the one text that
two patterns match. -/
theorem describes_iff (f : CommandForm) : f.Describes s ↔
    (f.reading s).isSome ∧ ¬(f = insert ∧ s = ">>>".toList) := by
  have hlast : ∀ c, s.getLast? = some c → isBlank c = false := htrim ▸ getLast?_trim s
  cases f with
  | comment =>
    rw [reading_comment hline, isSome_after]
    constructor
    · rintro ⟨⟨r, rfl⟩, hno⟩
      refine ⟨⟨r, rfl, ?_⟩, nofun⟩
      rw [if_neg]
      · rfl
      · intro hhead
        obtain ⟨r', rfl⟩ := List.head?_eq_some_iff.mp hhead
        exact hno ⟨r', rfl⟩
    · rintro ⟨⟨r, rfl, hsome⟩, -⟩
      refine ⟨⟨r, rfl⟩, ?_⟩
      rintro ⟨r', hr'⟩
      have hrest : "--".toList ++ '>' :: r' = "--".toList ++ r := hr'
      obtain rfl := List.append_cancel_left hrest
      exact absurd hsome nofun
  | replacement =>
    have hprefix : ∀ w, (afterPrefix? w s).isSome ↔ w <+: s := fun w => by
      simpa using isSome_prefix (w := w) (s := s) id
    rw [reading_replacement hline, Option.isSome_map, Option.isSome_or, Bool.or_eq_true, hprefix,
      hprefix]
    exact ⟨fun h => ⟨h.symm, nofun⟩, fun h => h.1.symm⟩
  | matchPlain =>
    rw [reading_matchPlain hline, isSome_prefix]
    exact ⟨fun h => ⟨h, nofun⟩, And.left⟩
  | matchRegex =>
    rw [reading_matchRegex hline, isSome_prefix]
    exact ⟨fun h => ⟨h, nofun⟩, And.left⟩
  | blockOpen =>
    rw [reading_blockOpen hline, isSome_prefix]
    exact ⟨fun h => ⟨h, nofun⟩, And.left⟩
  | blockClose =>
    rw [reading_blockClose hline, isSome_after]
    constructor
    · rintro rfl
      exact ⟨⟨[], rfl, rfl⟩, nofun⟩
    · rintro ⟨⟨r, rfl, hsome⟩, -⟩
      cases r with
      | nil => rfl
      | cons c r => exact absurd hsome nofun
  | eval =>
    rw [reading_eval hline, isSome_something hlast]
    exact ⟨fun h => ⟨h, nofun⟩, And.left⟩
  | insert =>
    rw [reading_insert hline, isSome_something hlast]
    exact ⟨fun h => ⟨h.2, fun hclose => h.1 hclose.2⟩, fun h => ⟨fun hs => h.2 ⟨rfl, hs⟩, h.1⟩⟩
  | normalize =>
    rw [reading_normalize hline hlast, Option.isSome_iff_exists]
    simp only [Option.bind_eq_some_iff, normalize_stem]
    constructor
    · rintro ⟨r, hr, hwords⟩
      obtain ⟨os, hos⟩ := Option.isSome_iff_exists.mp ((isSome_readOptions r).mpr hwords)
      exact ⟨⟨_, r, hr, by rw [hos]; rfl⟩, nofun⟩
    · rintro ⟨⟨k, r, hr, hk⟩, -⟩
      obtain ⟨os, hos, -⟩ := Option.map_eq_some_iff.mp hk
      exact ⟨r, hr, (isSome_readOptions r).mp (by rw [hos]; rfl)⟩
  | filename =>
    rw [reading_filename hline hlast, isSome_after]
    simp only [Option.isSome_map, isSome_readPath]
    exact ⟨fun h => ⟨h, nofun⟩, And.left⟩

/-! ## The order of the patterns -/

/-- A text that is not empty demands nothing only when its kind is not known. -/
theorem kindOf_of_no_form (hne : s ≠ []) (h : (Command.kindOf s).form? = none) :
    Command.kindOf s = .unknown := by
  generalize hk : Command.kindOf s = k at h ⊢
  unfold Command.kindOf at hk
  split at hk
  case h_1 => exact absurd rfl hne
  case h_13 =>
    rcases Command.kindByWord_cases s with ⟨r, os, -, -, hkind⟩ | ⟨r, p, -, -, hkind⟩ | hkind
    · rw [← hk, hkind] at h
      exact absurd h nofun
    · rw [← hk, hkind] at h
      exact absurd h nofun
    · exact hk.symm.trans hkind
  -- A sign alone demands nothing known; every other text has a form.
  all_goals
    subst hk
    first
      | rfl
      | cases h

theorem readIn_eq {order : List CommandForm} (hall : ∀ f, f ∈ order)
    (hclose : order.idxOf blockClose < order.idxOf insert) (hne : s ≠ []) :
    readIn order s = Command.kindOf s := by
  -- Before the pattern for the end of a block no other one reads three closing brackets.
  by_cases hbrackets : s = ">>>".toList
  · obtain ⟨before, after, horder, hbefore⟩ := List.eq_append_cons_of_mem (hall blockClose)
    have hinsert : insert ∉ before := by
      intro hmem
      rw [horder, List.idxOf_append_of_notMem hbefore, List.idxOf_append_of_mem hmem,
        List.idxOf_cons_self] at hclose
      have := List.idxOf_lt_length_iff.mpr hmem
      omega
    have hkind : Command.kindOf s = .blockClose := hbrackets ▸ rfl
    have hnone : before.findSome? (·.reading s) = none := by
      rw [List.findSome?_eq_none_iff]
      intro f hf
      by_contra hread
      obtain ⟨k, hk⟩ := Option.ne_none_iff_exists'.mp hread
      have hform := kindOf_of_reading hline htrim hk fun h => hinsert (h.1 ▸ hf)
      rw [← hform.1, hkind] at hform
      exact hbefore (Option.some.inj hform.2 ▸ hf)
    have hread : blockClose.reading s = some .blockClose :=
      hkind ▸ reading_of_kindOf hline htrim (by rw [hkind]; rfl)
    rw [readIn, horder, List.findSome?_append, hnone, Option.none_or, List.findSome?_cons, hread,
      hkind]
    rfl
  · have hkinds : ∀ (f : CommandForm) k, f.reading s = some k → Command.kindOf s = k :=
      fun f k hk => (kindOf_of_reading hline htrim hk fun h => hbrackets h.2).1
    rw [readIn]
    cases hfound : order.findSome? fun f : CommandForm => f.reading s with
    | some k =>
      obtain ⟨f, -, hf⟩ := List.exists_of_findSome?_eq_some hfound
      exact (hkinds f k hf).symm
    | none =>
      refine (kindOf_of_no_form hline htrim hne ?_).symm
      by_contra hform
      obtain ⟨f, hf⟩ := Option.ne_none_iff_exists'.mp hform
      have hnone := List.findSome?_eq_none_iff.mp hfound f (hall f)
      rw [reading_of_kindOf hline htrim hf] at hnone
      exact absurd hnone nofun

/-- The form of what a text demands is the one that the text looks like. -/
theorem form_eq_some_iff (f : CommandForm) :
    (Command.kindOf s).form? = some f ↔ f.Describes s := by
  rw [describes_iff hline htrim, Option.isSome_iff_exists]
  constructor
  · intro h
    refine ⟨⟨_, reading_of_kindOf hline htrim h⟩, ?_⟩
    rintro ⟨rfl, rfl⟩
    exact absurd h nofun
  · rintro ⟨⟨k, hk⟩, hclose⟩
    obtain ⟨rfl, hform⟩ := kindOf_of_reading hline htrim hk hclose
    exact hform

theorem kindOf_eq_blank_iff : Command.kindOf s = .blank ↔ s = [] := by
  refine ⟨fun hblank => ?_, ?_⟩
  · by_contra hne
    have hunknown := kindOf_of_no_form hline htrim hne (by rw [hblank]; rfl)
    rw [hblank] at hunknown
    exact absurd hunknown nofun
  · rintro rfl
    rfl

theorem kindOf_eq_unknown_iff (hne : s ≠ []) :
    Command.kindOf s = .unknown ↔ ∀ f : CommandForm, ¬f.Describes s := by
  constructor
  · intro hunknown f hf
    have hform := (form_eq_some_iff hline htrim f).mpr hf
    rw [hunknown] at hform
    exact absurd hform nofun
  · intro hnone
    refine kindOf_of_no_form hline htrim hne ?_
    by_contra hform
    obtain ⟨f, hf⟩ := Option.ne_none_iff_exists'.mp hform
    exact hnone f ((form_eq_some_iff hline htrim f).mp hf)

/-- Two patterns that match one text are the same, or the text is the one that ends a block and
would also be an insertion. -/
theorem eq_of_matches {f g : CommandForm} (hf : f.Matches s) (hg : g.Matches s) :
    f = g ∨ s = ">>>".toList ∧ (f = blockClose ∧ g = insert ∨ f = insert ∧ g = blockClose) := by
  have hform : ∀ h : CommandForm, h.Matches s → ¬(h = insert ∧ s = ">>>".toList) →
      (Command.kindOf s).form? = some h := fun h hm hother => by
    obtain ⟨k, hk⟩ := (h.matches_iff s).mp hm
    obtain ⟨rfl, hform⟩ := kindOf_of_reading hline htrim hk hother
    exact hform
  by_cases hbrackets : s = ">>>".toList
  · have hclose : (Command.kindOf s).form? = some blockClose := hbrackets ▸ rfl
    have htwo : ∀ h : CommandForm, h.Matches s → h = insert ∨ h = blockClose := fun h hm => by
      by_cases hinsert : h = insert
      · exact .inl hinsert
      · exact .inr (Option.some.inj ((hform h hm fun both => hinsert both.1).symm.trans hclose))
    rcases htwo f hf with rfl | rfl <;> rcases htwo g hg with rfl | rfl
    · exact .inl rfl
    · exact .inr ⟨hbrackets, .inr ⟨rfl, rfl⟩⟩
    · exact .inr ⟨hbrackets, .inl ⟨rfl, rfl⟩⟩
    · exact .inl rfl
  · have hf' := hform f hf fun h => hbrackets h.2
    have hg' := hform g hg fun h => hbrackets h.2
    exact .inl (Option.some.inj (hf'.symm.trans hg'))

end Trimmed

end CommandForm

/-! ## Lines -/

/-- The pattern of command lines splits a line at the trigger behind its blanks. -/
theorem commandMatch?_eq (line : List Char) :
    (commandMatch? line).map (fun m => (m.group 1, m.group 2)) = Command.split? line := by
  obtain ⟨x, hx, hmatch⟩ := command_readAs.matchText? line
  have hlen : (outset line).here.after.length ≤ x.length := Nat.le_of_eq hx.symm
  have hbar : Barred x isBlank fun t => followAll x
      (CommandForm.word trigger ++ [.group (some 2) (Pattern.star (.any false))])
        (t.grouped 1 (outset line)) atEnd := by
    have hword : CommandForm.word trigger = sign '/' :: CommandForm.word "//" := rfl
    simp only [hword, List.cons_append, followAll_cons]
    exact (barred_sign rfl x _).grouped 1 (outset line)
  rw [commandMatch?, hmatch, commandParts, List.cons_append, followAll_cons, follow_group,
    follow_star_of_barred CommandForm.takes_blank hlen hbar, CommandForm.word, followAll_word,
    Trail.here_grouped, Trail.after_ahead, drop_run, after_outset, Command.split?]
  cases hbody : afterPrefix? trigger.toList (line.dropWhile isBlank) with
  | none => rfl
  | some body =>
    have hblanks : Span.chars ⟨(outset line).here,
        ((outset line).ahead (run isBlank line)).here⟩ = line.takeWhile isBlank :=
      (chars_ahead _ _).trans (take_run _ _)
    obtain ⟨t, ht⟩ : ∃ t, t = (((outset line).ahead (run isBlank line)).grouped 1
      (outset line)).ahead trigger.toList.length := ⟨_, rfl⟩
    have hafter : t.here.after = body := by
      rw [ht, Trail.after_ahead, Trail.here_grouped, Trail.after_ahead, after_outset, drop_run,
        afterPrefix?_eq_some_iff.mp hbody, List.drop_left]
    have hgroups : t.groups =
        [(1, ⟨(outset line).here, ((outset line).ahead (run isBlank line)).here⟩)] := by
      rw [ht]
      rfl
    have hshort : t.here.after.length ≤ x.length := by
      have hsuffix : body <:+ line :=
        (List.suffix_append trigger.toList body).trans
          (afterPrefix?_eq_some_iff.mp hbody ▸ List.dropWhile_suffix isBlank)
      exact hafter ▸ hsuffix.length_le.trans hlen
    rw [Option.bind_some, ← ht, CommandForm.followAll_remainder hshort, hafter]
    by_cases hfeed : '\n' ∈ body
    · rw [if_pos hfeed]
      exact (if_pos (by simpa using hfeed)).symm
    · have hbody' : Span.chars ⟨t.here, (t.ahead body.length).here⟩ = body :=
        (chars_ahead _ _).trans (by rw [hafter, List.take_length])
      rw [if_neg hfeed]
      refine Eq.trans ?_ (if_neg (by simpa using hfeed)).symm
      simp [CommandForm.group_eq, List.lookup, hgroups, hblanks, hbody']

namespace Command

theorem classifyIn_eq {order : List CommandForm} (hall : ∀ f, f ∈ order)
    (hclose : order.idxOf .blockClose < order.idxOf .insert) (line : String) :
    classifyIn order line = classify line := by
  have hsplit := commandMatch?_eq line.toList
  cases hmatch : commandMatch? line.toList with
  | none =>
    rw [hmatch] at hsplit
    rw [classifyIn, hmatch, classify, ← hsplit]
    rfl
  | some m =>
    rw [hmatch, Option.map_some] at hsplit
    obtain ⟨-, -, hbody⟩ := split?_eq_some_iff.mp hsplit.symm
    have hline : '\n' ∉ trim (m.group 2) := fun h => hbody ((trim_sublist _).subset h)
    have hkind : (if (trim (m.group 2)).isEmpty then CommandKind.blank
        else CommandForm.readIn order (trim (m.group 2))) = kindOf (trim (m.group 2)) := by
      split
      · next hempty =>
        rw [List.isEmpty_iff.mp hempty]
        rfl
      · next hne =>
        exact CommandForm.readIn_eq hline (trim_trim _) hall hclose (by simpa using hne)
    rw [classifyIn, hmatch, classify, ← hsplit, Option.map_some, Option.map_some]
    simp only [hkind]

/-- What the kind of a command tells of its text. -/
theorem classify_kind {line : String} {c : Command} (h : classify line = some c) :
    (c.kind = .blank ↔ c.text = "") ∧
    (c.text ≠ "" → (∀ f : CommandForm, c.kind.form? = some f ↔ f.Describes c.text.toList) ∧
      (c.kind = .unknown ↔ ∀ f : CommandForm, ¬f.Describes c.text.toList)) := by
  obtain ⟨indent, body, -, -, hbody, rfl⟩ := classify_eq_some_iff.mp h
  have hline : '\n' ∉ trim body := fun hmem => hbody ((trim_sublist _).subset hmem)
  have htrim := trim_trim body
  have hempty : String.ofList (trim body) = "" ↔ trim body = [] := by
    rw [← String.toList_inj, String.toList_ofList]
    rfl
  refine ⟨(CommandForm.kindOf_eq_blank_iff hline htrim).trans hempty.symm, fun hne => ?_⟩
  rw [String.toList_ofList]
  exact ⟨fun f => CommandForm.form_eq_some_iff hline htrim f,
    CommandForm.kindOf_eq_unknown_iff hline htrim fun h => hne (hempty.mpr h)⟩

end Command

/-! ## What a line demands -/

/-- **The grammar of commands.** (1) Two patterns match one text without line feeds and without
blanks around it only when it is three closing brackets, (2) which the end of a block and an
insertion share. (3) So a line is the same command whatever the order of the patterns, as long as
the end of a block comes before an insertion. (4) A command demands nothing just when nothing stands
behind the trigger; otherwise its form is the one that its text looks like, and its kind is not
known when it looks like none. -/
theorem classify_any_order :
    (∀ s : List Char, s ≠ [] → '\n' ∉ s → trim s = s →
      ∀ f g : CommandForm, f.Matches s → g.Matches s →
        f = g ∨ s = ">>>".toList ∧
          (f = .blockClose ∧ g = .insert ∨ f = .insert ∧ g = .blockClose)) ∧
    (CommandForm.blockClose.Matches ">>>".toList ∧ CommandForm.insert.Matches ">>>".toList) ∧
    (∀ (order : List CommandForm) (line : String), (∀ f, f ∈ order) →
      order.idxOf .blockClose < order.idxOf .insert →
        Command.classifyIn order line = Command.classify line) ∧
    ∀ (line : String) (c : Command), Command.classify line = some c →
      (c.kind = .blank ↔ c.text = "") ∧
      (c.text ≠ "" → (∀ f : CommandForm, c.kind.form? = some f ↔ f.Describes c.text.toList) ∧
        (c.kind = .unknown ↔ ∀ f : CommandForm, ¬f.Describes c.text.toList)) := by
  refine ⟨fun s _ hline htrim f g hf hg => CommandForm.eq_of_matches hline htrim hf hg,
    ⟨?_, ?_⟩, fun order line hall hclose => Command.classifyIn_eq hall hclose line,
    fun line c h => Command.classify_kind h⟩
  · rw [CommandForm.matches_iff, CommandForm.reading_blockClose (by decide)]
    exact ⟨_, rfl⟩
  · rw [CommandForm.matches_iff, CommandForm.reading_insert (by decide)]
    exact ⟨_, rfl⟩

/-- An arrow is a replacement also when the patterns are tried the other way round. -/
theorem classify_any_order_arrow :
    let order : List CommandForm := [.filename, .normalize, .eval, .blockClose, .insert, .blockOpen,
      .matchRegex, .matchPlain, .replacement, .comment]
    (∀ f, f ∈ order) ∧ order.idxOf .blockClose < order.idxOf .insert ∧
      Command.classifyIn order "  ///--> x" = some ⟨.replacement "x", "--> x", "  "⟩ := by
  have hall : ∀ f, f ∈ ([.filename, .normalize, .eval, .blockClose, .insert, .blockOpen,
      .matchRegex, .matchPlain, .replacement, .comment] : List CommandForm) := by
    intro f
    cases f <;> decide
  refine ⟨hall, by decide, ?_⟩
  rw [classify_any_order.2.2.1 _ _ hall (by decide)]
  decide

end Stencil
