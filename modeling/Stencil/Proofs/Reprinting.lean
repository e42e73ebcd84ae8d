import Stencil.Proofs.Commands
/-!
# Stencil.Proofs.Reprinting -- commands and heads are read back as they are shown

A command is shown as the trigger and its text, and the head of a block with one blank before its
name and one before its expression. What is shown is read back: the blanks that are not shown are
those that reading passes over. For heads the splits have to be found again. All slashes behind the
opening brackets are passed before a blank, so an expression may start with one, and a name is only
taken where a colon follows it, so an expression may hold colons unless it starts like a name.
-/

namespace Stencil

open Stencil.Text

/-! ## Heads that can be written -/

/-- A name of ASCII letters, digits and underscores that does not start with a digit. -/
def IsName (s : List Char) : Prop :=
  ∃ c r, s = c :: r ∧ Command.startsName c = true ∧ ∀ d ∈ r, Command.inName d = true

/-- A text that starts with a name, blanks if any, and a colon. -/
def StartsNamed (s : List Char) : Prop :=
  ∃ name gap left, IsName name ∧ (∀ c ∈ gap, isBlank c = true) ∧ s = name ++ (gap ++ ':' :: left)

/-- A head that can be written: a name is one, an expression is a line of text without blanks around
it, and without a name it does not start as if there were one. -/
structure LoopHeader.Proper (h : LoopHeader) : Prop where
  name : ∀ n, h.name = some n → IsName n.toList
  expression : ∀ e, h.expression = some e → e ≠ "" ∧ '\n' ∉ e.toList ∧ trim e.toList = e.toList
  nameless : h.name = none → ∀ e, h.expression = some e → ¬StartsNamed e.toList

namespace Command

theorem inName_of_isBlank {c : Char} (h : isBlank c = true) : inName c = false := by
  by_contra hin
  rw [isBlank_of_inName (by simpa using hin)] at h
  exact absurd h nofun

/-- A name is split off with the colon behind it. -/
theorem loopName_of_named {name gap left : List Char} (hname : IsName name)
    (hgap : ∀ c ∈ gap, isBlank c = true) :
    loopName (name ++ (gap ++ ':' :: left)) = (some (String.ofList name), left) := by
  obtain ⟨c, r, rfl, hc, hr⟩ := hname
  have hstop : ∀ d, (gap ++ ':' :: left).head? = some d → inName d = false := by
    intro d hd
    cases gap with
    | nil => exact Option.some.inj hd ▸ by decide
    | cons b gap => exact Option.some.inj hd ▸ inName_of_isBlank (hgap b List.mem_cons_self)
  have hcolon : ∀ d, (':' :: left).head? = some d → isBlank d = false := by
    rintro _ ⟨⟩
    decide
  rw [List.cons_append, loopName, if_pos hc, dropWhile_append_of_stop hr hstop,
    dropWhile_append_of_stop hgap hcolon, takeWhile_append_of_stop hr hstop]
  rfl

theorem loopName_of_not_named {s : List Char} (h : ¬StartsNamed s) : loopName s = (none, s) := by
  rcases loopName_cases s with ⟨c, r, left, rfl, hc, hleft, -⟩ | ⟨-, hnone⟩
  · refine absurd ⟨c :: r.takeWhile inName, (r.dropWhile inName).takeWhile isBlank, left,
      ⟨c, _, rfl, hc, fun d => List.mem_takeWhile_imp⟩, fun d => List.mem_takeWhile_imp, ?_⟩ h
    rw [← hleft, List.takeWhile_append_dropWhile, List.cons_append,
      List.takeWhile_append_dropWhile]
  · exact hnone

/-- The name and the expression of a head are those that are read. -/
theorem readLoop_proper {s : List Char} (hline : '\n' ∉ s) : (readLoop s).Proper := by
  obtain ⟨u, hu⟩ : ∃ u, u = (s.dropWhile (· == '/')).dropWhile isBlank := ⟨_, rfl⟩
  have hfeed : '\n' ∉ u := fun h => hline
    ((hu ▸ (List.dropWhile_sublist _).trans (List.dropWhile_sublist _) : u.Sublist s).subset h)
  have hexpression : ∀ {rest : List Char} {e : String}, '\n' ∉ rest →
      (if (trim rest).isEmpty then none else some (String.ofList (trim rest))) = some e →
        e ≠ "" ∧ '\n' ∉ e.toList ∧ trim e.toList = e.toList := by
    intro rest e hrest he
    obtain ⟨hne, he⟩ := Option.ite_none_left_eq_some.mp he
    obtain rfl := Option.some.inj he
    rw [String.toList_ofList]
    refine ⟨?_, fun h => hrest ((trim_sublist rest).subset h), trim_trim rest⟩
    rw [Ne, ← String.toList_inj, String.toList_ofList]
    simpa using hne
  rw [readLoop, ← hu]
  by_cases hnamed : StartsNamed u
  · obtain ⟨name, gap, left, hname, hgap, hcut⟩ := hnamed
    have hleft : '\n' ∉ left := fun h => hfeed (by rw [hcut]; simp [h])
    rw [hcut, loopName_of_named hname hgap]
    refine ⟨?_, fun e he => hexpression hleft he, nofun⟩
    rintro _ ⟨⟩
    rwa [String.toList_ofList]
  · rw [loopName_of_not_named hnamed]
    refine ⟨nofun, fun e he => hexpression hfeed he, fun _ e he hstarts => hnamed ?_⟩
    obtain ⟨-, he⟩ := Option.ite_none_left_eq_some.mp he
    obtain rfl := Option.some.inj he
    obtain ⟨name, gap, left, hname, hgap, hcut⟩ := hstarts
    -- What is trimmed off the end comes behind the colon.
    have hself : u.dropWhile isBlank = u := hu ▸ List.dropWhile_idempotent _ _
    obtain ⟨tail, htail⟩ := List.rdropWhile_prefix isBlank u
    rw [String.toList_ofList, trim_eq, hself] at hcut
    refine ⟨name, gap, left ++ tail, hname, hgap, ?_⟩
    rw [← htail, hcut]
    simp

end Command

namespace LoopHeader

/-! ## What is shown of a head -/

/-- The name of a head as it is shown. -/
def nameText (h : LoopHeader) : List Char :=
  match h.name with
  | some n => ' ' :: (n.toList ++ [':'])
  | none => []

/-- The expression of a head as it is shown. -/
def expressionText (h : LoopHeader) : List Char :=
  match h.expression with
  | some e => ' ' :: e.toList
  | none => []

/-- A head as it is shown, behind the opening brackets. -/
def headText (h : LoopHeader) : List Char :=
  (if h.collapse then ['/'] else []) ++ (h.nameText ++ h.expressionText)

section Shown

variable {h : LoopHeader} (hproper : h.Proper)
include hproper

theorem shown_toList : h.shown.toList = "<<<".toList ++ h.headText := by
  obtain ⟨name, expression, collapse⟩ := h
  have hname : ∀ n, name = some n → n.isEmpty = false := by
    rintro n rfl
    obtain ⟨c, r, hn, -⟩ := hproper.name n rfl
    rw [← Bool.not_eq_true, String.isEmpty_iff]
    rintro rfl
    exact absurd hn nofun
  have hexpression : ∀ e, expression = some e → e.isEmpty = false := by
    rintro e rfl
    rw [← Bool.not_eq_true, String.isEmpty_iff]
    exact (hproper.expression e rfl).1
  have hempty : "".isEmpty = true := rfl
  cases name <;> cases expression <;> cases collapse <;>
    simp [shown, headText, nameText, expressionText, hname, hexpression, hempty]

/-- The expression is what is left of its text without the blank before it. -/
theorem trim_expressionText :
    (if (trim h.expressionText).isEmpty then none
      else some (String.ofList (trim h.expressionText))) = h.expression := by
  rw [expressionText]
  cases he : h.expression with
  | none => rfl
  | some e =>
    obtain ⟨hne, -, htrim⟩ := hproper.expression e he
    have hspace : isBlank ' ' = true := by decide
    have hblank : trim (' ' :: e.toList) = e.toList :=
      (trim_append_left (List.forall_mem_singleton.mpr hspace) e.toList).trans htrim
    have hnonempty : ¬e.toList.isEmpty = true := by simpa using hne
    rw [hblank, if_neg hnonempty, String.ofList_toList]

/-- Behind the slashes and blanks the name and the expression are found again. -/
theorem loopName_texts : ∃ rest,
    Command.loopName ((h.nameText ++ h.expressionText).dropWhile isBlank) = (h.name, rest) ∧
      trim rest = trim h.expressionText := by
  have hspace : isBlank ' ' = true := by decide
  cases hn : h.name with
  | some n =>
    have hname := hproper.name n hn
    have hhead : ∀ c, (n.toList ++ ':' :: h.expressionText).head? = some c →
        isBlank c = false := by
      obtain ⟨d, r, hd, hstarts, -⟩ := hname
      intro c hc
      rw [hd] at hc
      obtain rfl := Option.some.inj hc
      exact Command.isBlank_of_inName (by simp [Command.inName, hstarts])
    refine ⟨h.expressionText, ?_, rfl⟩
    rw [nameText, hn]
    simp only [List.cons_append, List.append_assoc, List.nil_append]
    rw [List.dropWhile_cons_of_pos hspace, dropWhile_eq_self hhead]
    have hgap : ∀ c ∈ ([] : List Char), isBlank c = true := List.forall_mem_nil _
    refine (Command.loopName_of_named hname hgap).trans ?_
    rw [String.ofList_toList]
  | none =>
    rw [nameText, hn, List.nil_append, expressionText]
    cases he : h.expression with
    | none => exact ⟨[], rfl, rfl⟩
    | some e =>
      obtain ⟨-, -, htrim⟩ := hproper.expression e he
      have hhead : ∀ c, e.toList.head? = some c → isBlank c = false := htrim ▸ head?_trim _
      refine ⟨e.toList, ?_, (trim_append_left (List.forall_mem_singleton.mpr hspace) e.toList).symm⟩
      rw [List.dropWhile_cons_of_pos hspace, dropWhile_eq_self hhead]
      exact Command.loopName_of_not_named (hproper.nameless hn e he)

theorem readLoop_headText : Command.readLoop h.headText = h := by
  have hhead : ∀ c, (h.nameText ++ h.expressionText).head? = some c → (c == '/') = false := by
    rw [nameText, expressionText]
    cases h.name <;> cases h.expression <;> simp
  have hdrop : h.headText.dropWhile (· == '/') = h.nameText ++ h.expressionText := by
    rw [headText]
    split
    · rw [List.cons_append, List.nil_append, List.dropWhile_cons_of_pos (by decide),
        dropWhile_eq_self hhead]
    · rw [List.nil_append, dropWhile_eq_self hhead]
  have hcollapse : (h.headText.head? == some '/') = h.collapse := by
    rw [headText]
    cases h.collapse with
    | true => rfl
    | false =>
      cases hc : (h.nameText ++ h.expressionText).head? with
      | none => simp [hc]
      | some c =>
        have := hhead c hc
        simpa [hc] using this
  obtain ⟨rest, hname, hrest⟩ := loopName_texts hproper
  rw [Command.readLoop, hdrop, hname, hcollapse]
  simp only [hrest, trim_expressionText hproper]

theorem feed_not_mem_headText : '\n' ∉ h.headText := by
  have hname : '\n' ∉ h.nameText := by
    rw [nameText]
    cases hn : h.name with
    | none => exact nofun
    | some n =>
      obtain ⟨c, r, hchars, hc, hr⟩ := hproper.name n hn
      have hno : ∀ d ∈ n.toList, d ≠ '\n' := by
        rw [hchars]
        rintro d hd rfl
        rcases List.mem_cons.mp hd with rfl | hd
        · exact absurd hc (by decide)
        · exact absurd (hr _ hd) (by decide)
      simpa using fun hmem => hno _ hmem rfl
  have hexpression : '\n' ∉ h.expressionText := by
    rw [expressionText]
    cases he : h.expression with
    | none => exact nofun
    | some e => simpa using (hproper.expression e he).2.1
  rw [headText, List.mem_append, List.mem_append]
  rintro (hslash | hmem | hmem)
  · split at hslash
    · exact absurd hslash (by decide)
    · exact absurd hslash nofun
  · exact hname hmem
  · exact hexpression hmem

theorem getLast?_headText :
    ∀ c, ("<<<".toList ++ h.headText).getLast? = some c → isBlank c = false := by
  cases he : h.expression with
  | some e =>
    obtain ⟨hne, -, htrim⟩ := hproper.expression e he
    have hnonempty : e.toList ≠ [] := by simpa using hne
    have hcut : "<<<".toList ++ h.headText =
        ("<<<".toList ++ ((if h.collapse then ['/'] else []) ++ (h.nameText ++ [' ']))) ++
          e.toList := by
      simp [headText, expressionText, he]
    rw [hcut, List.getLast?_append_of_ne_nil _ hnonempty]
    exact htrim ▸ getLast?_trim _
  | none =>
    cases hn : h.name with
    | some n =>
      have hcut : "<<<".toList ++ h.headText =
          ("<<<".toList ++ ((if h.collapse then ['/'] else []) ++ ' ' :: n.toList)) ++ [':'] := by
        simp [headText, nameText, expressionText, he, hn]
      rw [hcut, List.getLast?_append_of_ne_nil _ (List.cons_ne_nil _ _)]
      rintro _ ⟨⟩
      decide
    | none =>
      rw [headText, nameText, expressionText, he, hn]
      cases h.collapse with
      | true =>
        rintro _ ⟨⟩
        decide
      | false =>
        rintro _ ⟨⟩
        decide

/-- A head that can be written is read back as it is shown. -/
theorem Proper.classify_shown :
    Command.classify (trigger ++ h.shown) = some ⟨.blockOpen h, h.shown, ""⟩ := by
  have hline : '\n' ∉ "<<<".toList ++ h.headText := by
    rw [List.mem_append]
    rintro (hmem | hmem)
    · exact absurd hmem (by decide)
    · exact feed_not_mem_headText hproper hmem
  have htrim : trim ("<<<".toList ++ h.headText) = "<<<".toList ++ h.headText := by
    refine trim_eq_self ?_ (getLast?_headText hproper)
    rintro _ ⟨⟩
    decide
  have hshown : h.shown = String.ofList ("<<<".toList ++ h.headText) := by
    rw [← shown_toList hproper, String.ofList_toList]
  have hkind : Command.kindOf ("<<<".toList ++ h.headText) =
      .blockOpen (Command.readLoop h.headText) := rfl
  rw [hshown, Command.classify_trigger hline, htrim, hkind, readLoop_headText hproper]

end Shown

end LoopHeader

/-! ## Lines -/

namespace Command

theorem split?_append {w : List Char} (hw : ∀ c ∈ w, isBlank c = true) (line : List Char) :
    split? (w ++ line) = (split? line).map fun p => (w ++ p.1, p.2) := by
  rw [split?, split?, List.dropWhile_append_of_pos hw, List.takeWhile_append_of_pos hw]
  cases afterPrefix? trigger.toList (line.dropWhile isBlank) with
  | none => rfl
  | some body =>
    show (if _ then _ else _) = Option.map _ (if _ then _ else _)
    split <;> rfl

/-- Blanks before a line only become part of the blanks before the trigger. -/
theorem classify_append {w : String} (hw : ∀ c ∈ w.toList, isBlank c = true) (line : String) :
    classify (w ++ line) = (classify line).map fun c => { c with indent := w ++ c.indent } := by
  rw [classify, classify, String.toList_append, split?_append hw, Option.map_map, Option.map_map]
  congr 1
  funext p
  simp [String.ofList_append]

theorem isCommand_append {w : String} (hw : ∀ c ∈ w.toList, isBlank c = true) (line : String) :
    isCommand (w ++ line) = isCommand line := by
  rw [isCommand, isCommand, String.toList_append, split?_append hw, Option.isSome_map]

/-- Blanks behind the trigger are passed over. -/
theorem classify_trigger_blanks {indent w : String}
    (hindent : ∀ c ∈ indent.toList, isBlank c = true) (hw : ∀ c ∈ w.toList, isBlank c = true)
    (hline : '\n' ∉ w.toList) (body : String) :
    classify (indent ++ (trigger ++ (w ++ body))) = classify (indent ++ (trigger ++ body)) := by
  have hfeed : (w.toList ++ body.toList).contains '\n' = body.toList.contains '\n' := by
    simp [hline]
  rw [classify, classify]
  simp only [String.toList_append]
  rw [split?_trigger hindent, split?_trigger hindent, hfeed]
  split
  · rfl
  · rw [Option.map_some, Option.map_some]
    simp only [trim_append_left hw]

/-- Blanks at the end of a command line are passed over. -/
theorem classify_append_blanks {line w : String} {c : Command} (h : classify line = some c)
    (hw : ∀ c ∈ w.toList, isBlank c = true) (hline : '\n' ∉ w.toList) :
    classify (line ++ w) = some c := by
  obtain ⟨indent, body, hchars, hindent, hbody, rfl⟩ := classify_eq_some_iff.mp h
  have hboth : '\n' ∉ body ++ w.toList := by simp [hline, hbody]
  refine classify_eq_some_iff.mpr ⟨indent, body ++ w.toList, ?_, hindent, hboth, ?_⟩
  · rw [String.toList_append, hchars]
    simp
  · rw [trim_append_right body hw]

/-- A command is read back as it is shown, without the blanks before it. -/
theorem classify_shown {line : String} {c : Command} (h : classify line = some c) :
    classify c.shown = some { c with indent := "" } := by
  obtain ⟨indent, body, -, -, hbody, rfl⟩ := classify_eq_some_iff.mp h
  have hline : '\n' ∉ trim body := fun hmem => hbody ((trim_sublist body).subset hmem)
  rw [Command.shown, classify_trigger hline, trim_trim]

/-- The head of a block that is read can be written. -/
theorem proper_of_classify {line : String} {c : Command} {h : LoopHeader}
    (hc : classify line = some c) (hkind : c.kind = .blockOpen h) : h.Proper := by
  obtain ⟨indent, body, -, -, hbody, rfl⟩ := classify_eq_some_iff.mp hc
  obtain ⟨r, hr, rfl⟩ := kindOf_eq_blockOpen hkind
  refine readLoop_proper fun hmem => hbody ((trim_sublist body).subset ?_)
  rw [hr]
  exact List.mem_append_right _ hmem

end Command

/-! ## Reading back -/

/-- **Printing and reading back.** (1) A command is read back as it is shown, but for the blanks
before it. (2) Blanks before a line do not change whether it is a command, and are only put before
the blanks of the command. (3) Blanks behind the trigger and (4) at the end of a command line change
nothing. (5) The head of a block that is read is shown as a line that is read as the same head,
(6) and so is every head that can be written. -/
theorem classify_reprinted :
    (∀ (line : String) (c : Command), Command.classify line = some c →
      Command.classify c.shown = some { c with indent := "" }) ∧
    (∀ w line : String, (∀ b ∈ w.toList, isBlank b = true) →
      isCommand (w ++ line) = isCommand line ∧
        Command.classify (w ++ line) =
          (Command.classify line).map fun c => { c with indent := w ++ c.indent }) ∧
    (∀ indent w body : String, (∀ b ∈ indent.toList, isBlank b = true) →
      (∀ b ∈ w.toList, isBlank b = true) → '\n' ∉ w.toList →
        Command.classify (indent ++ (trigger ++ (w ++ body))) =
          Command.classify (indent ++ (trigger ++ body))) ∧
    (∀ (line w : String) (c : Command), Command.classify line = some c →
      (∀ b ∈ w.toList, isBlank b = true) → '\n' ∉ w.toList →
        Command.classify (line ++ w) = some c) ∧
    (∀ (line : String) (c : Command) (h : LoopHeader), Command.classify line = some c →
      c.kind = .blockOpen h →
        Command.classify (trigger ++ h.shown) = some ⟨.blockOpen h, h.shown, ""⟩) ∧
    ∀ h : LoopHeader, h.Proper →
      Command.classify (trigger ++ h.shown) = some ⟨.blockOpen h, h.shown, ""⟩ :=
  ⟨fun _ _ hc => Command.classify_shown hc,
    fun _ line hw => ⟨Command.isCommand_append hw line, Command.classify_append hw line⟩,
    fun _ _ body hindent hw hline => Command.classify_trigger_blanks hindent hw hline body,
    fun _ _ _ hc hw hline => Command.classify_append_blanks hc hw hline,
    fun _ _ _ hc hkind => (Command.proper_of_classify hc hkind).classify_shown,
    fun _ hproper => hproper.classify_shown⟩

/-- A head with many blanks, a colon and a slash in its expression is read back without the blanks,
and so is its command behind blanks. -/
theorem classify_reprinted_head :
    let h : LoopHeader := ⟨some "x", some "/a:b", true⟩
    let c : Command := ⟨.blockOpen h, "<<<//  x : /a:b", "\t"⟩
    Command.classify "\t/// <<<//  x : /a:b " = some c ∧
      Command.classify c.shown = some { c with indent := "" } ∧
      Command.classify ("\n" ++ "\t/// <<<//  x : /a:b ") = some { c with indent := "\n\t" } ∧
      Command.classify ("\t/// <<<//  x : /a:b " ++ "\r") = some c ∧
      Command.classify (trigger ++ h.shown) = some ⟨.blockOpen h, "<<</ x: /a:b", ""⟩ := by
  have hread : Command.classify "\t/// <<<//  x : /a:b " =
      some ⟨.blockOpen ⟨some "x", some "/a:b", true⟩, "<<<//  x : /a:b", "\t"⟩ := by decide +kernel
  have hblanks : ∀ c ∈ "\n".toList, isBlank c = true := List.all_eq_true.mp rfl
  have hreturn : ∀ c ∈ "\r".toList, isBlank c = true := List.all_eq_true.mp rfl
  refine ⟨hread, classify_reprinted.1 _ _ hread, ?_,
    classify_reprinted.2.2.2.1 _ _ _ hread hreturn (by decide +kernel),
    (classify_reprinted.2.2.2.2.1 _ _ _ hread rfl).trans (by decide +kernel)⟩
  rw [(classify_reprinted.2.1 _ _ hblanks).2, hread]
  decide +kernel

end Stencil
