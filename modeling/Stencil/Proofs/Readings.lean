import Stencil.Proofs.Commands
import Stencil.Proofs.Grammar
/-!
# Stencil.Proofs.Readings -- what the patterns of commands match

The pattern of each form of command is followed through a text without line feeds: whether it
matches, and what is demanded when it does. A run of characters is passed to its far end wherever
what follows bars its characters, and the last part of each pattern takes what is left of the text.
The words of a tidying command are the only part that takes an induction of its own.
-/

namespace Stencil

open Stencil.Text Stencil.Pattern

namespace CommandForm
/-! ## Classes -/

theorem belongs_blank (negated : Bool) :
    belongs false [.category .blank negated] {} = fun c => isBlank c != negated := by
  funext c
  simp [belongs, Flags.forms, ClassItem.holds, Category.holds]

theorem takes_blank : blank.Takes isBlank := by
  have hclass : belongs false [.category .blank false] {} = isBlank := by
    rw [belongs_blank]
    exact funext fun c => Bool.bne_false (isBlank c)
  exact hclass ▸ takes_one _ _ _

theorem belongs_letter : belongs false [.category .blank true] {} = (!isBlank ·) := by
  rw [belongs_blank]
  exact funext fun c => Bool.bne_true (isBlank c)

theorem takes_letter : letter.Takes (!isBlank ·) := belongs_letter ▸ takes_one _ _ _

theorem takes_nameStart : nameStart.Takes Command.startsName := by
  have hclass : belongs false [.range 97 122, .range 65 90, .char 95] {} = Command.startsName := by
    funext c
    rw [Bool.eq_iff_iff, Command.startsName_iff]
    simp [belongs, Flags.forms, ClassItem.holds, or_assoc]
  exact hclass ▸ takes_one _ _ _

theorem takes_nameNext : nameNext.Takes Command.inName := by
  have hclass : belongs false [.range 97 122, .range 65 90, .range 48 57, .char 95] {} =
      Command.inName := by
    funext c
    rw [Bool.eq_iff_iff, Command.inName_iff, Command.startsName_iff]
    simp [belongs, Flags.forms, ClassItem.holds]
    tauto
  exact hclass ▸ takes_one _ _ _

/-! ## What is left of a text -/

theorem afterPrefix?_append (p q s : List Char) :
    afterPrefix? (p ++ q) s = (afterPrefix? p s).bind (afterPrefix? q) := by
  induction p generalizing s with
  | nil => rfl
  | cons c p ih =>
    cases s with
    | nil => rfl
    | cons d s => by_cases h : c = d <;> simp [afterPrefix?, h, ih]

@[simp] theorem group?_matched (s : List Char) (t : Trail) (i : Nat) :
    (t.matched s).group? i = (t.groups.lookup i).map (·.chars) := rfl

theorem group_eq (m : Match) (i : Nat) : m.group (i + 1) = (m.group? (i + 1)).getD [] := rfl

theorem all_ne_feed {s : List Char} (h : '\n' ∉ s) : s.all (· != '\n') = true := by
  rw [List.all_eq_true]
  intro c hc
  simpa using ne_of_mem_of_not_mem hc h

theorem group_grouped (s : List Char) (t : Trail) (n : Nat) :
    (((t.ahead n).grouped 1 t).matched s).group 1 = t.here.after.take n := chars_ahead _ _

/-- A group that takes what is left of a text matches where no line feed is left. -/
theorem followAll_remainder {x : Subject} {t : Trail} (hlen : t.here.after.length ≤ x.length)
    (i : Nat) : followAll x [.group (some i) (Pattern.star (.any false))] t atEnd =
      if '\n' ∈ t.here.after then none
      else some ((t.ahead t.here.after.length).grouped i t) := by
  simp only [followAll_cons, followAll_nil, follow_group]
  rw [follow_star_of_final takes_any hlen (final_atEnd.grouped i t)]
  by_cases hfeed : '\n' ∈ t.here.after
  · rw [if_neg (by simpa using hfeed), if_pos hfeed]
  · rw [if_pos (all_ne_feed hfeed), if_neg hfeed]
    exact atEnd_of_nil List.drop_length

/-- No character but a blank may come before the rest of what must say something. -/
theorem follow_letter_of_blank (x : Subject) {t : Trail} {i : Nat} (k : Next)
    (hi : ∀ c, t.here.after[i]? = some c → isBlank c = true) :
    letter.follow x (t.ahead i) k = none := by
  refine takes_letter.of_not_holds x _ fun c hc => ?_
  rw [Trail.after_ahead, List.head?_drop] at hc
  simp [hi c hc]

section Following

variable {x : Subject} {t : Trail} (hlen : t.here.after.length ≤ x.length)
  (hline : '\n' ∉ t.here.after)
include hlen hline

theorem followAll_rest :
    followAll x [rest] t atEnd = some ((t.ahead t.here.after.length).grouped 1 t) :=
  (followAll_remainder hlen 1).trans (if_neg hline)

/-- Behind a character that is no blank the group goes on to the end. -/
theorem follow_letter_rest {i : Nat} {c : Char} (hi : t.here.after[i]? = some c)
    (hc : isBlank c = false) :
    (letter.follow x (t.ahead i) fun t' =>
      (Pattern.star (.any false)).follow x t' fun t'' => atEnd (t''.grouped 1 t)) =
      some ((t.ahead t.here.after.length).grouped 1 t) := by
  obtain ⟨hlt, hget⟩ := List.getElem?_eq_some_iff.mp hi
  have hdrop : (t.ahead i).here.after = c :: t.here.after.drop (i + 1) := by
    rw [Trail.after_ahead, List.drop_eq_getElem_cons hlt, hget]
  have hrest : ((t.ahead i).ahead 1).here.after = t.here.after.drop (i + 1) :=
    Trail.after_ahead_one hdrop
  have hfeed : '\n' ∉ t.here.after.drop (i + 1) := fun h => hline (List.mem_of_mem_drop h)
  rw [takes_letter.of_holds x _ hdrop (by simp [hc]), follow_star_of_final takes_any
    (by rw [hrest, List.length_drop]; omega) (final_atEnd.grouped 1 t), hrest,
    if_pos (all_ne_feed hfeed), List.length_drop, Trail.ahead_ahead, Trail.ahead_ahead,
    show i + (1 + (t.here.after.length - (i + 1))) = t.here.after.length by omega]
  exact atEnd_of_nil (by simp)

/-- Where a character that is no blank comes next, the group goes on to the end behind it. -/
theorem followAll_something :
    followAll x [something] t atEnd =
      if t.here.after.all isBlank then none
      else some ((t.ahead t.here.after.length).grouped 1 t) := by
  simp only [followAll_cons, followAll_nil, something, follow_group, follow_sequence]
  rw [follow_star _ takes_any hlen]
  split
  · next hall =>
    simp only [List.all_eq_true] at hall
    rw [List.findSome?_eq_none_iff]
    exact fun i _ => follow_letter_of_blank x _ fun c hc => hall c (List.mem_of_getElem? hc)
  · next hsome =>
    obtain ⟨i, c, hi, hc⟩ : ∃ i c, t.here.after[i]? = some c ∧ isBlank c = false := by
      simp only [List.all_eq_true, not_forall, Bool.not_eq_true] at hsome
      obtain ⟨c, hmem, hc⟩ := hsome
      obtain ⟨i, hi⟩ := List.mem_iff_getElem?.mp hmem
      exact ⟨i, c, hi, hc⟩
    have hrun : run (· != '\n') t.here.after = t.here.after.length := by
      rw [run, List.takeWhile_eq_self_iff.mpr (by simpa using all_ne_feed hline)]
    have hlt : i < t.here.after.length := (List.getElem?_eq_some_iff.mp hi).1
    cases hfound : List.findSome? _ _ with
    | none =>
      have hnone := List.findSome?_eq_none_iff.mp hfound i (by simp [hrun]; omega)
      rw [follow_letter_rest hlen hline hi hc] at hnone
      cases hnone
    | some found =>
      obtain ⟨j, -, hj⟩ := List.exists_of_findSome?_eq_some hfound
      by_cases hall : ∀ d, t.here.after[j]? = some d → isBlank d = true
      · rw [follow_letter_of_blank x _ hall] at hj
        cases hj
      · obtain ⟨d, hd, hnot⟩ : ∃ d, t.here.after[j]? = some d ∧ isBlank d = false := by
          simpa using hall
        rw [← hj, follow_letter_rest hlen hline hd hnot]

end Following

/-! ## Heads of loops -/

section Loops

variable {x : Subject} {t : Trail} (hlen : t.here.after.length ≤ x.length)
include hlen

/-- The expression ends where only blanks follow. -/
theorem followAll_expression (hline : '\n' ∉ t.here.after) :
    ∃ t' span, followAll x expression t atEnd = some t' ∧ t'.groups = (3, span) :: t.groups ∧
      span.chars = t.here.after.rdropWhile isBlank := by
  generalize hkept : t.here.after.rdropWhile isBlank = kept
  obtain ⟨blanks, hblanks, hcut⟩ :
      ∃ blanks : List Char, (∀ c ∈ blanks, isBlank c = true) ∧ t.here.after = kept ++ blanks :=
    ⟨t.here.after.rtakeWhile isBlank, fun _ => List.mem_rtakeWhile_imp,
      by rw [← hkept, List.rdropWhile_append_rtakeWhile]⟩
  have hbehind : ∀ j, ((t.ahead j).grouped 3 t).here.after.length ≤ x.length := fun j =>
    (t.length_ahead_le j).trans hlen
  have hnext : ∀ j, ((Pattern.star blank).follow x ((t.ahead j).grouped 3 t) fun t' =>
      followAll x [] t' atEnd) = if (t.here.after.drop j).all isBlank then
        some (((t.ahead j).grouped 3 t).ahead (t.here.after.drop j).length) else none := by
    intro j
    simp only [followAll_nil]
    rw [follow_star_of_final takes_blank (hbehind j) final_atEnd, Trail.here_grouped,
      Trail.after_ahead]
    split
    · exact atEnd_of_nil (by simp [List.drop_drop]; omega)
    · rfl
  refine ⟨((t.ahead kept.length).grouped 3 t).ahead (t.here.after.drop kept.length).length,
    ⟨t.here, (t.ahead kept.length).here⟩, ?_, rfl,
    (chars_ahead _ _).trans (by rw [hcut, List.take_left])⟩
  simp only [expression, followAll_cons, follow_group]
  refine follow_lazyStar_of_first (i := kept.length) _ takes_any hlen ?_ ?_
    ((hnext kept.length).trans (if_pos ?_))
  · rw [run, List.takeWhile_eq_self_iff.mpr (by simpa using all_ne_feed hline), hcut]
    simp
  · intro j hj
    refine (hnext j).trans (if_neg ?_)
    -- The last character before the end of the expression is no blank.
    have hne : kept.drop j ≠ [] := by simpa using hj
    have hlast : isBlank ((kept.drop j).getLast hne) = false := by
      have hnot := List.rdropWhile_last_not isBlank t.here.after
        (by rw [hkept]; rintro rfl; simp at hj)
      simpa [hkept, List.getLast_drop] using hnot
    rw [hcut, List.drop_append_of_le_length (Nat.le_of_lt hj)]
    intro hall
    have hmem := List.mem_append_left blanks (List.getLast_mem hne)
    rw [List.all_eq_true.mp hall _ hmem] at hlast
    cases hlast
  · rw [hcut, List.drop_left]
    exact List.all_eq_true.mpr hblanks

/-- Blanks before an expression are passed. -/
theorem followAll_blankExpression (hline : '\n' ∉ t.here.after) :
    ∃ t' span, followAll x (Pattern.star blank :: expression) t atEnd = some t' ∧
      t'.groups = (3, span) :: t.groups ∧ span.chars = trim t.here.after := by
  have hshort := (t.length_ahead_le (run isBlank t.here.after)).trans hlen
  obtain ⟨t', span, hfound, hgroups, hspan⟩ := followAll_expression hshort
    fun h => hline (List.mem_of_mem_drop h)
  refine ⟨t', span, ?_, hgroups, ?_⟩
  · rw [followAll_cons]
    exact follow_star_of_some _ takes_blank hlen hfound
  · rw [hspan, Trail.after_ahead, drop_run, trim_eq]

/-- Behind what looks like a name the colon must come. -/
theorem follow_named {c : Char} {r : List Char} (hafter : t.here.after = c :: r)
    (hc : Command.startsName c = true) (k : Next) :
    ∃ t', named.follow x t k = (sign ':').follow x t' k ∧
      t'.here.after = (r.dropWhile Command.inName).dropWhile isBlank ∧
      ∃ span, t'.groups = (2, span) :: t.groups ∧
        span.chars = c :: r.takeWhile Command.inName := by
  have hcolon : Barred x isBlank fun t' => (sign ':').follow x t' k := barred_sign rfl x k
  have hname : Barred x Command.inName fun t' => (sign ':').follow x t' k := barred_sign rfl x k
  have hbar := (hname.star takes_blank fun d => Command.isBlank_of_inName).grouped 2 t
  have hshort := (t.length_ahead_le 1).trans hlen
  have hshort' : (((t.ahead 1).ahead (run Command.inName r)).grouped 2 t).here.after.length ≤
      x.length := ((t.ahead 1).length_ahead_le _).trans hshort
  rw [named, follow_plainGroup, follow_sequence]
  simp only [followAll_cons, followAll_nil, follow_group, follow_sequence]
  rw [takes_nameStart.of_holds x _ hafter hc, follow_star_of_barred takes_nameNext hshort hbar,
    Trail.after_ahead_one hafter,
    follow_star_of_barred takes_blank hshort' hcolon]
  refine ⟨_, rfl, ?_, _, rfl, ?_⟩
  · rw [Trail.after_ahead, drop_run, Trail.here_grouped, Trail.after_ahead,
      Trail.after_ahead_one hafter, drop_run]
  · rw [Trail.ahead_ahead]
    refine (chars_ahead _ _).trans ?_
    rw [hafter, Nat.add_comm, List.take_succ_cons, take_run]

theorem follow_named_of_none (k : Next)
    (hnone : ∀ c r left, t.here.after = c :: r → Command.startsName c = true →
      (r.dropWhile Command.inName).dropWhile isBlank ≠ ':' :: left) :
    named.follow x t k = none := by
  by_cases hstart : ∃ c r, t.here.after = c :: r ∧ Command.startsName c = true
  · obtain ⟨c, r, hafter, hc⟩ := hstart
    obtain ⟨t', hfollow, hafter', -⟩ := follow_named hlen hafter hc k
    rw [hfollow]
    refine (takes_sign ':').of_not_holds x k fun d hd => ?_
    rw [hafter'] at hd
    rw [beq_eq_false_iff_ne]
    rintro rfl
    obtain ⟨left, hleft⟩ := List.head?_eq_some_iff.mp hd
    exact hnone c r left hafter hc hleft
  · rw [named, follow_plainGroup, follow_sequence, followAll_cons, follow_group, follow_sequence,
      followAll_cons]
    refine takes_nameStart.of_not_holds x _ fun c hc => ?_
    obtain ⟨r, hafter⟩ := List.head?_eq_some_iff.mp hc
    exact Bool.eq_false_iff.mpr fun hstarts => hstart ⟨c, r, hafter, hstarts⟩

/-- The name is taken where there is one. -/
theorem followAll_namedExpression (hline : '\n' ∉ t.here.after) :
    ∃ t' span names,
      followAll x (optional named :: Pattern.star blank :: expression) t atEnd = some t' ∧
      t'.groups = (3, span) :: (names ++ t.groups) ∧
      span.chars = trim (Command.loopName t.here.after).2 ∧
      (names = [] ∧ (Command.loopName t.here.after).1 = none ∨
        ∃ nameSpan, names = [(2, nameSpan)] ∧
          (Command.loopName t.here.after).1 = some (String.ofList nameSpan.chars)) := by
  rw [followAll_cons, follow_optional]
  rcases Command.loopName_cases t.here.after with
    ⟨c, r, left, hafter, hc, hleft, hname⟩ | ⟨hnone, hname⟩
  · obtain ⟨t₁, hfollow, hafter₁, nameSpan, hgroups, hnamed⟩ := follow_named hlen hafter hc
      fun t' => followAll x (Pattern.star blank :: expression) t' atEnd
    rw [hleft] at hafter₁
    have hcolon : (':' :: left).Sublist r :=
      hleft ▸ (List.dropWhile_sublist isBlank).trans (List.dropWhile_sublist Command.inName)
    have hsub : left.Sublist t.here.after :=
      hafter ▸ ((List.sublist_cons_self _ _).trans hcolon).cons c
    have hrest : (t₁.ahead 1).here.after = left := Trail.after_ahead_one hafter₁
    obtain ⟨t', span, hfound, hgroups', hspan⟩ := followAll_blankExpression
      (t := t₁.ahead 1) (x := x) (by rw [hrest]; exact hsub.length_le.trans hlen)
      (by rw [hrest]; exact fun h => hline (hsub.subset h))
    refine ⟨t', span, [(2, nameSpan)], ?_, ?_, ?_, .inr ⟨nameSpan, rfl, ?_⟩⟩
    · rw [hfollow, (takes_sign ':').of_holds x _ hafter₁ rfl, hfound]
      rfl
    · rw [hgroups', Trail.groups_ahead, hgroups]
      rfl
    · rw [hspan, hrest, hname]
    · rw [hname, hnamed]
  · obtain ⟨t', span, hfound, hgroups, hspan⟩ := followAll_blankExpression hlen hline
    refine ⟨t', span, [], ?_, hgroups, ?_, .inl ⟨rfl, by rw [hname]⟩⟩
    · rw [follow_named_of_none hlen _ hnone, Option.none_or, hfound]
    · rw [hspan, hname]

/-- Behind the opening brackets all slashes and all blanks are passed before the name. -/
theorem followAll_opening (hline : '\n' ∉ t.here.after) (hgroups : t.groups = []) :
    ∃ t', followAll x (.group (some 1) (Pattern.star (sign '/')) :: Pattern.star blank ::
        optional named :: Pattern.star blank :: expression) t atEnd = some t' ∧
      ∀ s, blockOpen.demand (t'.matched s) = .blockOpen (Command.readLoop t.here.after) := by
  obtain ⟨t₁, ht₁⟩ : ∃ t₁, t₁ = (t.ahead (run (· == '/') t.here.after)).grouped 1 t := ⟨_, rfl⟩
  have hafter₁ : t₁.here.after = t.here.after.dropWhile (· == '/') := by
    rw [ht₁, Trail.here_grouped, Trail.after_ahead, drop_run]
  have hsub₁ : t₁.here.after.Sublist t.here.after := hafter₁ ▸ List.dropWhile_sublist _
  obtain ⟨t₂, ht₂⟩ : ∃ t₂, t₂ = t₁.ahead (run isBlank t₁.here.after) := ⟨_, rfl⟩
  have hafter₂ : t₂.here.after = t₁.here.after.dropWhile isBlank := by
    rw [ht₂, Trail.after_ahead, drop_run]
  have hsub₂ : t₂.here.after.Sublist t.here.after :=
    hafter₂ ▸ (List.dropWhile_sublist _).trans hsub₁
  have hgroups₂ : t₂.groups = [(1, ⟨t.here, (t.ahead (run (· == '/') t.here.after)).here⟩)] := by
    rw [ht₂, ht₁, Trail.groups_ahead, Trail.groups_grouped, Trail.groups_ahead, hgroups]
  obtain ⟨t', span, names, hfound, hgroups', hspan, hnames⟩ := followAll_namedExpression
    (hsub₂.length_le.trans hlen) (fun h => hline (hsub₂.subset h))
  refine ⟨t', ?_, fun s => ?_⟩
  · rw [followAll_cons, follow_group]
    refine follow_star_of_some _ (takes_sign '/') hlen ?_
    rw [← ht₁, followAll_cons]
    refine follow_star_of_some _ takes_blank (hsub₁.length_le.trans hlen) ?_
    rw [← ht₂, hfound]
  · rw [hafter₂, hafter₁] at hspan hnames
    have hslashes : Span.chars ⟨t.here, (t.ahead (run (· == '/') t.here.after)).here⟩ =
        t.here.after.takeWhile (· == '/') := (chars_ahead _ _).trans (take_run _ _)
    have hcollapse : decide ('/' ∈ t.here.after.takeWhile (· == '/')) =
        (t.here.after.head? == some '/') := by
      cases t.here.after with
      | nil => rfl
      | cons c r => by_cases hc : c = '/' <;> simp [hc]
    rw [hgroups₂] at hgroups'
    simp only [demand, group_eq, group?_matched, hgroups', Command.readLoop]
    rcases hnames with ⟨rfl, hname⟩ | ⟨nameSpan, rfl, hname⟩
    · simp [List.lookup, hspan, hname, hslashes, hcollapse]
    · simp [List.lookup, hspan, hname, hslashes, hcollapse]

end Loops

/-! ## Words for what lines can be tidied of -/

/-- A text that is made of words for what lines can be tidied of, each with blanks before it. -/
inductive Tidies : List Char → Prop where
  | nil : Tidies []
  | word {s r : List Char} (hgap : run isBlank s ≠ 0)
      (hword : s.dropWhile isBlank = "spaces".toList ++ r) (hrest : Tidies r) : Tidies s

theorem Tidies.split {s : List Char} (h : Tidies s) (hne : s ≠ []) :
    run isBlank s ≠ 0 ∧ ∃ r, s.dropWhile isBlank = "spaces".toList ++ r ∧ Tidies r := by
  cases h with
  | nil => exact absurd rfl hne
  | word hgap hword hrest => exact ⟨hgap, _, hword, hrest⟩

section Tidying

variable {x : Subject} {t : Trail} (hlen : t.here.after.length ≤ x.length)
include hlen

/-- One round passes some blanks and a word. -/
theorem follow_tidied (k : Next) :
    tidied.follow x t k =
      if run isBlank t.here.after = 0 then none
      else (afterPrefix? "spaces".toList (t.here.after.dropWhile isBlank)).bind fun _ =>
        k (t.ahead (run isBlank t.here.after + 6)) := by
  have hnext : ∀ t', followAll x (word "spaces") t' k =
      (afterPrefix? "spaces".toList t'.here.after).bind fun _ => k (t'.ahead 6) := by
    intro t'
    rw [← List.append_nil (word "spaces"), word, followAll_word]
    simp only [followAll_nil]
    rfl
  have hbar : Barred x isBlank fun t' => followAll x (word "spaces") t' k := by
    have hword : word "spaces" = sign 's' :: word "paces" := rfl
    simp only [hword, followAll_cons]
    exact barred_sign rfl x _
  rw [tidied, follow_plainGroup, follow_sequence]
  simp only [followAll_cons, followAll_nil, follow_plainGroup, follow_sequence]
  rw [follow_plus_of_barred takes_blank hlen hbar, hnext, Trail.after_ahead, drop_run,
    Trail.ahead_ahead]

open scoped Classical in
/-- One round before what passes the words that are left passes all words. -/
theorem follow_tidied_of_rest {k k' : Next}
    (hk : ∀ n, 0 < n → n ≤ t.here.after.length → k (t.ahead n) =
      if Tidies (t.here.after.drop n) then k' (t.ahead t.here.after.length) else none) :
    tidied.follow x t k =
      if t.here.after ≠ [] ∧ Tidies t.here.after then k' (t.ahead t.here.after.length)
      else none := by
  rw [follow_tidied hlen]
  by_cases hgap : run isBlank t.here.after = 0
  · rw [if_pos hgap, if_neg]
    exact fun ⟨hne, htidies⟩ => (htidies.split hne).1 hgap
  · have hne : t.here.after ≠ [] := by
      intro hnil
      rw [hnil] at hgap
      exact hgap rfl
    rw [if_neg hgap]
    cases hword : afterPrefix? "spaces".toList (t.here.after.dropWhile isBlank) with
    | none =>
      refine (if_neg ?_).symm
      rintro ⟨-, htidies⟩
      obtain ⟨-, r, hr, -⟩ := htidies.split hne
      rw [afterPrefix?_eq_some_iff.mpr hr] at hword
      exact absurd hword nofun
    | some r =>
      have hr := afterPrefix?_eq_some_iff.mp hword
      have hdrop : t.here.after.drop (run isBlank t.here.after + 6) = r := by
        rw [← List.drop_drop, drop_run, hr]
        rfl
      have hbound : run isBlank t.here.after + 6 ≤ t.here.after.length := by
        have hlength := congrArg List.length hr
        rw [← drop_run, List.length_drop, List.length_append] at hlength
        have hsix : "spaces".toList.length = 6 := rfl
        omega
      have hiff : Tidies t.here.after ↔ Tidies r := by
        refine ⟨fun htidies => ?_, .word hgap hr⟩
        obtain ⟨-, r', hr', hrest⟩ := htidies.split hne
        exact List.append_cancel_left (hr.symm.trans hr') ▸ hrest
      rw [Option.bind_some, hk _ (Nat.succ_pos _) hbound, hdrop]
      simp [hne, hiff]

open scoped Classical in
/-- Further rounds before the end of a text pass all words that are left. -/
theorem greedyRounds_tidied {k : Next} (hk : Final k) {count fuel : Nat} {last : Option Nat}
    (hcount : 1 ≤ count) (hfuel : t.here.after.length < fuel) (hlast : last ≠ some t.here.pos) :
    greedyRounds (tidied.follow x) 1 unbounded k fuel count last t =
      if Tidies t.here.after then k (t.ahead t.here.after.length) else none := by
  induction fuel generalizing t count last with
  | zero => exact absurd hfuel (Nat.not_lt_zero _)
  | succ fuel ih =>
    have hmay : mayRepeat unbounded count last t = true := by simp [mayRepeat, hlast]
    have hrest : ∀ n, 0 < n → n ≤ t.here.after.length →
        greedyRounds (tidied.follow x) 1 unbounded k fuel (count + 1) (some t.here.pos)
            (t.ahead n) =
          if Tidies (t.here.after.drop n) then k (t.ahead t.here.after.length) else none := by
      intro n hn hle
      have hlength := t.length_ahead n
      rw [ih (by omega) (Nat.le_succ_of_le hcount) (by omega) (by simp; omega), hlength,
        Trail.after_ahead, Trail.ahead_ahead, Nat.add_sub_cancel' hle]
    rw [greedyRounds, if_neg (Nat.not_lt.mpr hcount), if_pos hmay,
      follow_tidied_of_rest hlen hrest]
    by_cases hnil : t.here.after = []
    · simp [hnil, Tidies.nil]
    · rw [hk t hnil]
      split <;> simp_all

open scoped Classical in
theorem follow_plus_tidied {k : Next} (hk : Final k) :
    (plus tidied).follow x t k =
      if t.here.after ≠ [] ∧ Tidies t.here.after then k (t.ahead t.here.after.length)
      else none := by
  rw [plus, follow_greedy]
  show greedyRounds (tidied.follow x) 1 unbounded k (1 + x.length + 1 + 1) 0 none t = _
  rw [greedyRounds, if_pos Nat.one_pos]
  refine follow_tidied_of_rest hlen fun n hn hle => ?_
  have hlength := t.length_ahead n
  have hlast : none ≠ some (t.ahead n).here.pos := by simp
  rw [greedyRounds_tidied (by omega) hk (Nat.le_refl 1) (by omega) hlast, hlength,
    Trail.after_ahead, Trail.ahead_ahead, Nat.add_sub_cancel' hle]

end Tidying

theorem Tidies.head_blank {s : List Char} (h : Tidies s) :
    ∀ c, s.head? = some c → isBlank c = true := by
  intro c hc
  obtain ⟨r, rfl⟩ := List.head?_eq_some_iff.mp hc
  by_contra hnot
  exact (h.split (List.cons_ne_nil c r)).1 (by simp [run, hnot])

theorem Tidies.words_eq {s : List Char} (h : Tidies s) : ∀ w ∈ words s, w = "spaces".toList := by
  induction h with
  | nil => exact nofun
  | @word s r hgap hword hrest ih =>
    have hspaces : ∀ c ∈ "spaces".toList, (!isBlank c) = true := List.all_eq_true.mp rfl
    have hstop : ∀ c, r.head? = some c → (!isBlank c) = false := fun c hc => by
      rw [hrest.head_blank c hc]
      rfl
    rw [← words_dropWhile, hword, words_of_head (c := 's') rfl (by decide),
      takeWhile_append_of_stop hspaces hstop, dropWhile_append_of_stop hspaces hstop]
    exact List.forall_mem_cons.mpr ⟨rfl, ih⟩

/-- The words of a text that starts with a blank and does not end with one are all passed when each
is the one word for what lines can be tidied of. -/
theorem tidies_of_words {s : List Char} (hlast : ∀ c, s.getLast? = some c → isBlank c = false)
    (hhead : ∀ c, s.head? = some c → isBlank c = true)
    (hwords : ∀ w ∈ words s, w = "spaces".toList) : Tidies s := by
  induction hn : s.length using Nat.strong_induction_on generalizing s with
  | _ n ih =>
    subst hn
    cases hfirst : s.head? with
    | none => exact List.head?_eq_none_iff.mp hfirst ▸ .nil
    | some c =>
      obtain ⟨r, hs⟩ := List.head?_eq_some_iff.mp hfirst
      have hgap : run isBlank s ≠ 0 := by simp [run, hs, hhead c hfirst]
      cases hd : s.dropWhile isBlank with
      | nil =>
        rw [eq_nil_of_words hlast (words_eq_nil_iff.mpr hd)] at hs
        exact absurd hs.symm (List.cons_ne_nil c r)
      | cons d u =>
        have hnot := head?_dropWhile isBlank s d (by rw [hd]; rfl)
        rw [← words_dropWhile, hd, words_of_head rfl hnot, List.forall_mem_cons] at hwords
        have hcut := List.takeWhile_append_dropWhile (p := (!isBlank ·)) (l := d :: u)
        rw [hwords.1] at hcut
        have hsuffix : (d :: u).dropWhile (!isBlank ·) <:+ s :=
          (List.dropWhile_suffix _).trans (hd ▸ List.dropWhile_suffix _)
        refine .word hgap (hd.trans hcut.symm) (ih _ ?_ (getLast?_of_suffix hsuffix hlast) ?_
          hwords.2 rfl)
        · have hle : (s.dropWhile isBlank).length ≤ s.length :=
            (List.dropWhile_sublist _).length_le
          rw [hd, ← hcut, List.length_append] at hle
          have hsix : "spaces".toList.length = 6 := rfl
          omega
        · intro c hc
          simpa using head?_dropWhile _ _ c hc

/-! ## What the forms demand -/

/-- The tip of an arrow, and what is left of the text. -/
theorem demand_tip (s : List Char) {x : Subject} {t : Trail} (hlen : t.here.after.length ≤ x.length)
    (hfeed : '\n' ∉ t.here.after) :
    (followAll x [sign '>', rest] t atEnd).map (fun t' => replacement.demand (t'.matched s)) =
      (afterPrefix? ">".toList t.here.after).map fun r => .replacement (Command.trimmed r) := by
  have hshort := (t.length_ahead_le 1).trans hlen
  rw [show [sign '>', rest] = ">".toList.map sign ++ [rest] from rfl, followAll_word]
  cases htip : afterPrefix? ">".toList t.here.after with
  | none => rfl
  | some r =>
    have hr : (t.ahead 1).here.after = r :=
      Trail.after_ahead_one (afterPrefix?_eq_some_iff.mp htip)
    have hrest := followAll_rest hshort fun h => hfeed (List.mem_of_mem_drop h)
    rw [Option.bind_some, Option.map_some]
    refine (congrArg _ hrest).trans ?_
    rw [Option.map_some, demand, group_grouped, List.take_length, hr]

open scoped Classical in
/-- Options are words behind blanks. -/
theorem readOptions_eq {r : List Char} (hlast : ∀ c, r.getLast? = some c → isBlank c = false) :
    Command.readOptions r =
      if r ≠ [] ∧ Tidies r then some ((words r).filterMap Normalizer.ofWord?) else none := by
  have hspaces : ∀ ws : List (List Char), (∀ w ∈ ws, w = "spaces".toList) →
      ws.filterMap Normalizer.ofWord? = ws.map fun _ => .spaces := by
    intro ws hws
    rw [← List.filterMap_eq_map]
    exact List.filterMap_congr fun w hw => by rw [hws w hw]; rfl
  split
  · next h =>
    obtain ⟨c, u, rfl⟩ := List.exists_cons_of_ne_nil h.1
    have hwords := h.2.words_eq
    have hc := h.2.head_blank c rfl
    rw [hspaces _ hwords]
    unfold Command.readOptions
    cases hcut : words (c :: u) with
    | nil => exact absurd (eq_nil_of_words hlast hcut) (List.cons_ne_nil c u)
    | cons w ws =>
      rw [hcut] at hwords
      refine if_pos ?_
      rw [hc, Bool.true_and, List.all_eq_true]
      exact fun v hv => beq_iff_eq.mpr (hwords v hv)
  · next h =>
    unfold Command.readOptions
    split
    · next c u w ws hcut =>
      refine if_neg fun hall => h ⟨List.cons_ne_nil c u, ?_⟩
      rw [Bool.and_eq_true, List.all_eq_true] at hall
      refine tidies_of_words hlast (fun d hd => ?_) fun v hv => ?_
      · exact Option.some.inj hd ▸ hall.1
      · rw [hcut] at hv
        exact beq_iff_eq.mp (hall.2 v hv)
    · rfl

theorem demand_tidied (s : List Char) {x : Subject} {t : Trail}
    (hlen : t.here.after.length ≤ x.length)
    (hlast : ∀ c, t.here.after.getLast? = some c → isBlank c = false) :
    (followAll x [.group (some 1) (plus tidied)] t atEnd).map
        (fun t' => normalize.demand (t'.matched s)) =
      (Command.readOptions t.here.after).map .normalize := by
  simp only [followAll_cons, followAll_nil, follow_group]
  rw [follow_plus_tidied hlen (final_atEnd.grouped 1 t), readOptions_eq hlast]
  split
  · have hend : atEnd ((t.ahead t.here.after.length).grouped 1 t) =
        some ((t.ahead t.here.after.length).grouped 1 t) := atEnd_of_nil List.drop_length
    rw [hend, Option.map_some, Option.map_some, demand, group_grouped, List.take_length]
  · rfl

/-- The last letter of a tidying command, and its options. -/
theorem demand_ending (s : List Char) {x : Subject} {t : Trail}
    (hlen : t.here.after.length ≤ x.length)
    (hlast : ∀ c, t.here.after.getLast? = some c → isBlank c = false) :
    (followAll x [sign 'e', .group (some 1) (plus tidied)] t atEnd).map
        (fun t' => normalize.demand (t'.matched s)) =
      (afterPrefix? "e".toList t.here.after).bind fun r =>
        (Command.readOptions r).map .normalize := by
  have hword : [sign 'e', .group (some 1) (plus tidied)] =
      "e".toList.map sign ++ [.group (some 1) (plus tidied)] := rfl
  rw [hword, followAll_word]
  cases he : afterPrefix? "e".toList t.here.after with
  | none => rfl
  | some r =>
    have hr : (t.ahead 1).here.after = r := Trail.after_ahead_one (afterPrefix?_eq_some_iff.mp he)
    have hoptions := demand_tidied s ((t.length_ahead_le 1).trans hlen)
      (getLast?_of_suffix (List.drop_suffix 1 _) hlast)
    rw [hr] at hoptions
    exact hoptions

/-- A path is one word behind blanks. -/
theorem readPath_eq {r : List Char} (hlast : ∀ c, r.getLast? = some c → isBlank c = false) :
    Command.readPath r =
      if run isBlank r = 0 then none
      else if r.dropWhile isBlank ≠ [] ∧ (r.dropWhile isBlank).all (!isBlank ·) then
        some (String.ofList (r.dropWhile isBlank))
      else none := by
  cases r with
  | nil => exact (if_pos rfl).symm
  | cons c u =>
    unfold Command.readPath
    rw [← words_dropWhile]
    by_cases hc : isBlank c = true
    · have hrun : run isBlank (c :: u) ≠ 0 := by simp [run, hc]
      rw [if_neg hrun]
      cases hd : (c :: u).dropWhile isBlank with
      | nil => rfl
      | cons d v =>
        have hnot := head?_dropWhile isBlank (c :: u) d (by rw [hd]; rfl)
        have hcut := List.takeWhile_append_dropWhile (p := (!isBlank ·)) (l := d :: v)
        rw [words_of_head rfl hnot]
        by_cases hall : (d :: v).all (!isBlank ·) = true
        · have hnil : (d :: v).dropWhile (!isBlank ·) = [] :=
            List.dropWhile_eq_nil_iff.mpr (List.all_eq_true.mp hall)
          rw [hnil, List.append_nil] at hcut
          rw [hnil, hcut, if_pos ⟨List.cons_ne_nil d v, hall⟩]
          exact if_pos hc
        · have hsuffix : (d :: v).dropWhile (!isBlank ·) <:+ c :: u :=
            (List.dropWhile_suffix _).trans (hd ▸ List.dropWhile_suffix _)
          have hmore : words ((d :: v).dropWhile (!isBlank ·)) ≠ [] := fun hnone =>
            hall (List.all_eq_true.mpr (List.dropWhile_eq_nil_iff.mp
              (eq_nil_of_words (getLast?_of_suffix hsuffix hlast) hnone)))
          obtain ⟨w, ws, hws⟩ := List.exists_cons_of_ne_nil hmore
          rw [hws, if_neg fun h => hall h.2]
    · rw [if_pos (by simp [run, hc])]
      split
      · next hmatch _ =>
        cases hmatch
        exact if_neg hc
      · rfl

section Readings

variable {s : List Char} (hline : '\n' ∉ s)
include hline

/-- A pattern that starts with a word reads what follows the word. -/
theorem reading_word {f : CommandForm} {w : String} {ns : List Node}
    {g : List Char → Option CommandKind} (hparts : f.parts = word w ++ ns)
    (hrest : ∀ (x : Subject) (t : Trail), t.here.after.length ≤ x.length → '\n' ∉ t.here.after →
      s = w.toList ++ t.here.after → t.groups = [] →
      (followAll x ns t atEnd).map (fun t' => f.demand (t'.matched s)) = g t.here.after) :
    f.reading s = (afterPrefix? w.toList s).bind g := by
  obtain ⟨x, hx, hmatch⟩ := f.readAs_parts.matchText? s
  rw [reading, match?, hmatch, hparts, word, followAll_word, after_outset]
  cases hword : afterPrefix? w.toList s with
  | none => rfl
  | some r =>
    have hs := afterPrefix?_eq_some_iff.mp hword
    have hafter : ((outset s).ahead w.toList.length).here.after = r := by
      rw [Trail.after_ahead, after_outset, hs, List.drop_left]
    have hlen : r.length ≤ x.length := by rw [hx, hs, List.length_append]; omega
    have hfeed : '\n' ∉ r := fun h => hline (hs ▸ List.mem_append_right _ h)
    rw [← hafter] at hlen hfeed hs
    rw [Option.bind_some, Option.bind_some, Option.map_map, ← hafter]
    exact hrest x _ hlen hfeed hs rfl

theorem reading_comment : comment.reading s =
    (afterPrefix? "--".toList s).bind fun r =>
      if r.head? = some '>' then none else some .comment := by
  refine reading_word hline rfl fun x t hlen hfeed _ _ => ?_
  have hclass : belongs true [.char 62] {} = (· != '>') := by
    funext c
    rw [Bool.eq_iff_iff]
    simp [belongs, Flags.forms, ClassItem.holds, ← Char.toNat_inj]
  have hother : (Node.one true [.char 62] {}).Takes (· != '>') := hclass ▸ takes_one _ _ _
  rw [followAll_cons, follow_plainGroup, follow_choice, follow_anchor, follow_sequence,
    Anchor.holds]
  simp only [followAll_cons, followAll_nil]
  cases hafter : t.here.after with
  | nil =>
    rw [atEnd_of_nil hafter]
    rfl
  | cons c r =>
    have hgoes : ¬((c :: r).isEmpty || c :: r == ['\n']) = true := by
      rw [hafter] at hfeed
      simp only [List.isEmpty_cons, Bool.false_or, beq_iff_eq]
      rintro ⟨⟩
      exact hfeed (List.mem_singleton_self _)
    rw [if_neg hgoes]
    by_cases hc : c = '>'
    · rw [hother.of_not_holds x _ (by simp [hafter, hc]), if_pos (by simp [hc])]
      rfl
    · have hrest := Trail.after_ahead_one hafter
      have hshort := (t.length_ahead_le 1).trans hlen
      have hall : (t.ahead 1).here.after.all (· != '\n') = true :=
        all_ne_feed fun h => hfeed (List.mem_of_mem_drop h)
      rw [hother.of_holds x _ hafter (by simpa using hc),
        follow_star_of_final takes_any hshort final_atEnd, if_pos hall, atEnd_ahead_length,
        if_neg (by simpa using hc)]
      rfl

/-- The arrow of a replacement may have a second dash. -/
theorem reading_replacement : replacement.reading s =
    ((afterPrefix? "-->".toList s).or (afterPrefix? "->".toList s)).map fun r =>
      .replacement (Command.trimmed r) := by
  have hdash : replacement.reading s = (afterPrefix? "-".toList s).bind fun r =>
      ((afterPrefix? "->".toList r).or (afterPrefix? ">".toList r)).map fun r =>
        .replacement (Command.trimmed r) := by
    refine reading_word hline rfl fun x t hlen hfeed _ _ => ?_
    have hshort := (t.length_ahead_le 1).trans hlen
    have hsecond := demand_tip s hshort fun h => hfeed (List.mem_of_mem_drop h)
    rw [followAll_cons, follow_optional, Option.map_or, Option.map_or, demand_tip s hlen hfeed]
    congr 1
    cases hafter : t.here.after with
    | nil => rw [(takes_sign '-').of_not_holds x _ (by simp [hafter])]; rfl
    | cons c r =>
      by_cases hc : c = '-'
      · rw [Trail.after_ahead_one hafter] at hsecond
        rw [(takes_sign '-').of_holds x _ hafter (by simp [hc]), hsecond, hc]
        rfl
      · rw [(takes_sign '-').of_not_holds x _ (by simpa [hafter] using hc)]
        simp [afterPrefix?, Ne.symm hc]
  rw [hdash, show "-->".toList = "-".toList ++ "->".toList from rfl,
    show "->".toList = "-".toList ++ ">".toList from rfl, afterPrefix?_append, afterPrefix?_append]
  cases afterPrefix? "-".toList s <;> rfl

/-- A sign and what is left of the text. -/
theorem reading_rest {f : CommandForm} {w : String} {g : List Char → CommandKind}
    (hparts : f.parts = word w ++ [rest]) (hdemand : ∀ m, f.demand m = g (m.group 1)) :
    f.reading s = (afterPrefix? w.toList s).bind fun r => some (g r) := by
  refine reading_word hline hparts fun x t hlen hfeed _ _ => ?_
  rw [followAll_rest hlen hfeed, Option.map_some, hdemand, group_grouped, List.take_length]

/-- A sign and what is left of the text, which must not be blank. -/
theorem reading_something {f : CommandForm} {w : String} {g : List Char → CommandKind}
    (hparts : f.parts = word w ++ [something]) (hdemand : ∀ m, f.demand m = g (m.group 1)) :
    f.reading s =
      (afterPrefix? w.toList s).bind fun r => if r.all isBlank then none else some (g r) := by
  refine reading_word hline hparts fun x t hlen hfeed _ _ => ?_
  rw [followAll_something hlen hfeed]
  split
  · rfl
  · rw [Option.map_some, hdemand, group_grouped, List.take_length]

theorem reading_matchPlain : matchPlain.reading s =
    (afterPrefix? "=".toList s).bind fun r => some (.pattern .plain (Command.trimmed r)) :=
  reading_rest hline rfl fun _ => rfl

theorem reading_matchRegex : matchRegex.reading s =
    (afterPrefix? "~".toList s).bind fun r => some (.pattern .regex (Command.trimmed r)) :=
  reading_rest hline rfl fun _ => rfl

theorem reading_eval : eval.reading s =
    (afterPrefix? "!".toList s).bind fun r =>
      if r.all isBlank then none else some (.eval (Command.trimmed r)) :=
  reading_something hline rfl fun _ => rfl

theorem reading_insert : insert.reading s =
    (afterPrefix? ">".toList s).bind fun r =>
      if r.all isBlank then none else some (.insert (Command.trimmed r)) :=
  reading_something hline rfl fun _ => rfl

theorem reading_blockOpen : blockOpen.reading s =
    (afterPrefix? "<<<".toList s).bind fun r => some (.blockOpen (Command.readLoop r)) := by
  refine reading_word hline rfl fun x t hlen hfeed _ hgroups => ?_
  obtain ⟨t', hfound, hdemand⟩ := followAll_opening hlen hfeed hgroups
  rw [hfound, Option.map_some, hdemand]

theorem reading_blockClose : blockClose.reading s =
    (afterPrefix? ">>>".toList s).bind fun r => if r = [] then some .blockClose else none := by
  refine reading_word hline (List.append_nil _).symm fun x t _ _ _ _ => ?_
  rw [followAll_nil]
  split
  · next hnil => rw [atEnd_of_nil hnil, Option.map_some, demand]
  · next hne => rw [atEnd_of_ne_nil hne, Option.map_none]

theorem reading_filename (hlast : ∀ c, s.getLast? = some c → isBlank c = false) :
    filename.reading s = (afterPrefix? "filename".toList s).bind fun r =>
      (Command.readPath r).map .filename := by
  refine reading_word hline rfl fun x t hlen hfeed hs _ => ?_
  have hlast' := getLast?_of_suffix ⟨_, hs.symm⟩ hlast
  have hbar : Barred x isBlank fun t' =>
      (plus letter).follow x t' fun t'' => atEnd (t''.grouped 1 t') := by
    intro t' c hlen' hc hblank
    refine (follow_plus _ takes_letter hlen').trans (takes_letter.of_not_holds x _ fun d hd => ?_)
    rw [hc] at hd
    simp [← Option.some.inj hd, hblank]
  have hshort := (t.length_ahead_le (run isBlank t.here.after)).trans hlen
  simp only [followAll_cons, followAll_nil, follow_group]
  rw [follow_plus_of_barred takes_blank hlen hbar,
    follow_plus_of_final takes_letter hshort (final_atEnd.grouped 1 _), Trail.after_ahead, drop_run,
    readPath_eq hlast']
  split
  · rfl
  · split
    · have hend : (((t.ahead (run isBlank t.here.after)).ahead
          (t.here.after.dropWhile isBlank).length).grouped 1
            (t.ahead (run isBlank t.here.after))).here.after = [] := by
        rw [Trail.here_grouped, Trail.after_ahead, Trail.after_ahead, drop_run, List.drop_length]
      rw [atEnd_of_nil hend, Option.map_some, Option.map_some, demand,
        group_grouped, Trail.after_ahead, drop_run, List.take_length]
    · rfl

theorem reading_normalize (hlast : ∀ c, s.getLast? = some c → isBlank c = false) :
    normalize.reading s =
      ((afterPrefix? "normalise".toList s).or (afterPrefix? "normalize".toList s)).bind fun r =>
        (Command.readOptions r).map .normalize := by
  have hclass : belongs false [.char 115, .char 122] {} = fun c => c == 's' || c == 'z' := by
    funext c
    rw [Bool.eq_iff_iff]
    simp [belongs, Flags.forms, ClassItem.holds, ← Char.toNat_inj]
  have heither : (Node.one false [.char 115, .char 122] {}).Takes fun c => c == 's' || c == 'z' :=
    hclass ▸ takes_one _ _ _
  have hstem : normalize.reading s = (afterPrefix? "normali".toList s).bind fun u =>
      ((afterPrefix? "se".toList u).or (afterPrefix? "ze".toList u)).bind fun r =>
        (Command.readOptions r).map .normalize := by
    refine reading_word hline rfl fun x t hlen hfeed hs _ => ?_
    have hlast' := getLast?_of_suffix ((List.drop_suffix 1 _).trans ⟨_, hs.symm⟩) hlast
    have hending := demand_ending s ((t.length_ahead_le 1).trans hlen) hlast'
    rw [followAll_cons]
    cases hafter : t.here.after with
    | nil => rw [heither.of_not_holds x _ (by simp [hafter])]; rfl
    | cons c u =>
      by_cases hc : c = 's' ∨ c = 'z'
      · have hstart : (afterPrefix? "se".toList (c :: u)).or (afterPrefix? "ze".toList (c :: u)) =
            afterPrefix? "e".toList u := by
          rcases hc with rfl | rfl
          · exact Option.or_none
          · rfl
        rw [Trail.after_ahead_one hafter] at hending
        rw [heither.of_holds x _ hafter (by simpa using hc), hstart, hending]
      · rw [heither.of_not_holds x _ (by simpa [hafter] using hc)]
        rw [not_or] at hc
        simp [afterPrefix?, Ne.symm hc.1, Ne.symm hc.2]
  rw [hstem, show "normalise".toList = "normali".toList ++ "se".toList from rfl,
    show "normalize".toList = "normali".toList ++ "ze".toList from rfl, afterPrefix?_append,
    afterPrefix?_append]
  cases afterPrefix? "normali".toList s <;> rfl

end Readings

end CommandForm

end Stencil
