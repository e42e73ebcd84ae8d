import Mathlib
import Stencil.Proofs.Alone
import Stencil.Proofs.Commands
import Stencil.Proofs.Lettering
import Stencil.Proofs.Runs
/-!
# Stencil.Proofs.Placeholders -- the names of elements in lines

Within a pass the name of the element with a low line before it stands for the text of the element,
where it is a word of its own. The pattern that finds it takes the run of characters of names that is
this word, and the text is put for it as it stands, whatever is in it. In nested passes one such rule
after the other is applied, the innermost first, and sees what those before it have put. But what has
been put for a word lies between the same two characters as the word did, so its runs are those that
the text has by itself; unless there is the placeholder of an element further out among them, the
later rules pass it by, and all placeholders are filled as if at once.
-/

namespace Stencil

open Stencil.Expr Stencil.Text Stencil.Pattern Command

/-! ## The pattern of a placeholder -/

namespace Pattern

/-- A character of a name. -/
def nameChar : Node := .one false [.range 65 90, .range 97 122, .range 48 57, .char 95] {}

/-- The pattern of a placeholder as it is written. -/
def placeholderText (name : List Char) : List Char :=
  "(?<![A-Za-z0-9_])".toList ++ '_' :: (name ++ "(?![A-Za-z0-9_])".toList)

/-- The parts of the pattern of a placeholder. -/
def placeholderParts (name : List Char) : List Node :=
  .look true true nameChar :: (('_' :: name).map sign ++ [.look false true nameChar])

theorem belongs_nameChar :
    belongs false [.range 65 90, .range 97 122, .range 48 57, .char 95] {} = inName := by
  funext c
  rw [Bool.eq_iff_iff, inName_iff, startsName_iff]
  simp [belongs, Flags.forms, ClassItem.holds]
  omega

/-- What stands before the name is read. -/
theorem parts_before_name (fuel : Nat) (r : List Char) :
    parts {} true [] (fuel + 4) { rest := "(?<![A-Za-z0-9_])".toList ++ '_' :: r } =
      parts {} true [.look true true nameChar] (fuel + 3) { rest := '_' :: r, pos := 17 } := by
  cbv

/-- What stands behind the name is read. -/
theorem parts_behind_name (fuel pos : Nat) (so : List Node) :
    parts {} true so (fuel + 6) { rest := "(?![A-Za-z0-9_])".toList, pos := pos } =
      .ok (sequenceOf (.look false true nameChar :: so).reverse) { rest := [], pos := pos + 16 } := by
  cbv

theorem not_mem_marks_of_inName {c : Char} (hc : inName c = true) : c ∉ marks := by
  intro hmem
  have hmarks : marks.all (!inName ·) = true := by decide
  have hnot := List.all_eq_true.mp hmarks c hmem
  rw [hc] at hnot
  cases hnot

theorem isSpecial_of_inName {c : Char} (hc : inName c = true) : isSpecial c = false := by
  by_contra hspecial
  have hmem := List.contains_iff_mem.mp (Bool.not_eq_false _ ▸ hspecial)
  have hall : "()[]\x7b\x7d?*+-|^$\\.&~# \t\n\r\x0b\x0c".toList.all (!inName ·) = true := by decide
  have hnot := List.all_eq_true.mp hall c hmem
  rw [hc] at hnot
  cases hnot

/-- In a name nothing is quoted. -/
theorem quote_of_inName {name : List Char} (hname : ∀ c ∈ name, inName c = true) :
    quote name = name := by
  induction name with
  | nil => rfl
  | cons c r ih =>
    have hc := isSpecial_of_inName (hname c List.mem_cons_self)
    have hr := ih fun d hd => hname d (List.mem_cons_of_mem c hd)
    rw [quote, List.flatMap_cons, if_neg (by simp [hc])]
    exact congrArg (c :: ·) hr

theorem length_placeholderText (name : List Char) :
    (placeholderText name).length = name.length + 34 := by
  unfold placeholderText
  simp

/-- The whole text is read as the parts, when there is fuel enough. -/
theorem parts_placeholderText {name : List Char} (hname : ∀ c ∈ name, inName c = true)
    (fuel : Nat) : parts {} true [] (fuel + 6 + ('_' :: name).length + 1)
        { rest := placeholderText name } =
      .ok (.sequence (placeholderParts name))
        { rest := [], pos := 17 + ('_' :: name).length + 16 } := by
  have hword : ∀ c ∈ '_' :: name, c ∉ marks :=
    List.forall_mem_cons.mpr ⟨by decide, fun c hc => not_mem_marks_of_inName (hname c hc)⟩
  rw [show fuel + 6 + ('_' :: name).length + 1 = fuel + 3 + ('_' :: name).length + 4 by omega]
  unfold placeholderText
  rw [parts_before_name,
    show fuel + 3 + ('_' :: name).length + 3 = fuel + 6 + ('_' :: name).length by omega,
    parts_of_word hword true _ (fuel + 6) (r := "(?![A-Za-z0-9_])".toList) rfl (by decide),
    parts_behind_name]
  simp [placeholderParts, sequenceOf]

theorem looksBehindWell_placeholder (name : List Char) (groups : Nat → Nat × Nat) :
    (Node.sequence (placeholderParts name)).looksBehindWell groups = true := by
  show allLookBehindWell groups (placeholderParts name) = true
  rw [placeholderParts, allLookBehindWell, allLookBehindWell_append, allLookBehindWell_word]
  rfl

/-- The pattern of a placeholder is read as its parts, whatever the name is. -/
theorem ofText_placeholderText {name : List Char} (hname : ∀ c ∈ name, inName c = true) :
    ∃ P, Pattern.ofText (placeholderText name) = .ok P ∧
      P.node = .sequence (placeholderParts name) := by
  have hlength := length_placeholderText name
  have hend : placeholderText name ≠ ['\\'] := by
    intro h
    rw [h, List.length_singleton] at hlength
    omega
  obtain ⟨fuel, hfuel⟩ : ∃ fuel, 2 * (placeholderText name).length + 4 =
      fuel + 6 + ('_' :: name).length + 1 + 1 := by
    refine ⟨2 * (placeholderText name).length + 4 - (name.length + 9), ?_⟩
    rw [List.length_cons]
    omega
  obtain ⟨t, hparts, hrest, hflags, hnamed⟩ : ∃ t,
      parts {} true [] (fuel + 6 + ('_' :: name).length + 1) { rest := placeholderText name } =
        .ok (.sequence (placeholderParts name)) t ∧ t.rest = [] ∧ t.flags = {} ∧ t.named = [] :=
    ⟨_, parts_placeholderText hname fuel, rfl, rfl, rfl⟩
  have hwhole := readWhole_of_parts hend hparts hrest hflags hnamed
    (looksBehindWell_placeholder name t.groupWidth)
  rw [← hfuel] at hwhole
  refine ⟨⟨.sequence (placeholderParts name), t.widths.size - 1, t.groupWidth⟩, ?_, rfl⟩
  rw [Pattern.ofText, EStateM.run, hwhole]

end Pattern

/-! ## The rule of a placeholder -/

/-- What the rule of a placeholder replaces, and what it puts for it. -/
def placeholderTouch (name new : List Char) : Touch :=
  ⟨fun r => !r.before.any inName && r.chars == '_' :: name, new⟩

theorem fair_placeholderTouch (name new : List Char) : (placeholderTouch name new).Fair inName where
  ne_nil b n := by simp [placeholderTouch]
  tail b c w n hc _ := by simp [placeholderTouch, hc]

section Matching

variable {name w : List Char}

/-- A word that is not to go on is passed where it is the run. -/
theorem followAll_wholeWord (hw : ∀ c ∈ w, inName c = true) (x : Subject) (t : Trail) (k : Next) :
    followAll x (w.map sign ++ [.look false true nameChar]) t k =
      if t.here.after.takeWhile inName = w then k (t.ahead w.length) else none := by
  have hlook : ∀ t : Trail, followAll x [.look false true nameChar] t k =
      if t.here.after.head?.any inName then none else k t := by
    intro t
    rw [followAll_cons, nameChar, follow_lookAhead, belongs_nameChar, followAll_nil]
    cases t.here.after.head?.any inName <;> rfl
  rw [followAll_word, hlook, Trail.after_ahead]
  by_cases hrun : t.here.after.takeWhile inName = w
  · have hgoes : afterPrefix? w t.here.after = some (t.here.after.dropWhile inName) := by
      rw [afterPrefix?_eq_some_iff, ← hrun, List.takeWhile_append_dropWhile]
    have hdrop : t.here.after.drop w.length = t.here.after.dropWhile inName := by
      rw [← hrun]
      exact drop_run inName t.here.after
    have hstop : (t.here.after.dropWhile inName).head?.any inName = false := by
      cases hhead : (t.here.after.dropWhile inName).head? with
      | none => rfl
      | some c => exact head?_dropWhile inName _ c hhead
    rw [if_pos hrun, hgoes, hdrop, hstop]
    rfl
  · rw [if_neg hrun]
    cases hgoes : afterPrefix? w t.here.after with
    | none => rfl
    | some r =>
      have hsplit := afterPrefix?_eq_some_iff.mp hgoes
      rw [Option.bind_some, hsplit, List.drop_left]
      refine if_pos ?_
      -- Otherwise the word would be the run.
      by_contra hstop
      refine hrun ?_
      rw [hsplit]
      refine takeWhile_append_of_stop hw fun c hc => ?_
      rw [hc] at hstop
      simpa using hstop

/-- The pattern of a placeholder takes the runs that are the placeholder. -/
theorem takesRuns_placeholder {P : Pattern} (hnode : P.node = .sequence (placeholderParts name))
    (hname : ∀ c ∈ name, inName c = true) (new : List Char) :
    P.TakesRuns inName (placeholderTouch name new) := by
  intro length advance c _
  have hword : ∀ d ∈ '_' :: name, inName d = true := List.forall_mem_cons.mpr ⟨by decide, hname⟩
  have hchooses : (placeholderTouch name new).chooses (c.runAt inName) =
      (!c.before.head?.any inName && c.after.takeWhile inName == '_' :: name) := rfl
  rw [Pattern.matchAt, hnode, follow_sequence, placeholderParts, followAll_cons, nameChar,
    follow_lookBehind, belongs_nameChar, Bool.bne_true, ← nameChar, followAll_wholeWord hword,
    hchooses]
  by_cases hrun : c.after.takeWhile inName = '_' :: name
  · have hlength : run inName c.after = ('_' :: name).length := congrArg List.length hrun
    have hpos : (c.pos + ('_' :: name).length == c.pos) = false := by
      rw [beq_eq_false_iff_ne, List.length_cons]
      omega
    rw [hrun, hlength, if_pos rfl, beq_self_eq_true, Bool.and_true]
    cases c.before.head?.any inName with
    | true => rfl
    | false => simp [Trail.ahead, Cursor.ahead]
  · rw [if_neg hrun, beq_eq_false_iff_ne.mpr hrun, Bool.and_false, ite_self]
    rfl

end Matching

/-- A text that begins neither with an exclamation mark nor with a backtick stands for itself. -/
theorem resolve_plain {text : String} {c : Char} (hfirst : text.toList.head? = some c)
    (hmark : c ≠ '!') (htick : c ≠ '\x60') (e : Evaluator) (b : Bindings) :
    e.resolve b text = pure text := by
  rw [Evaluator.resolve]
  split
  · next h =>
    rw [h] at hfirst
    exact absurd (Option.some.inj hfirst).symm hmark
  · next h =>
    rw [h] at hfirst
    exact absurd (Option.some.inj hfirst).symm htick
  · rfl

/-- The rule of a placeholder replaces the placeholder, by any text as it stands. -/
theorem touches_placeholder {name text : String} (hname : ∀ c ∈ name.toList, inName c = true) :
    (Scope.placeholder name text).Touches inName (placeholderTouch name.toList text.toList) := by
  have hpattern : (Scope.placeholder name text).pattern.toList = placeholderText name.toList := by
    unfold Scope.placeholder placeholderText
    rw [quote_of_inName hname, String.ofList_toList, String.toList_append, String.toList_append,
      List.append_assoc]
    exact congrArg (· ++ _) rfl
  obtain ⟨P, hP, hnode⟩ := ofText_placeholderText hname
  have hfirst : (Scope.placeholder name text).pattern.toList.head? = some '(' := by
    rw [hpattern]
    rfl
  refine ⟨rfl, ⟨_, P, resolve_plain hfirst (by decide) (by decide), hpattern ▸ hP,
    takesRuns_placeholder hnode hname _⟩, fair_placeholderTouch _ _, fun e b => ?_⟩
  rw [placeholderTouch, String.ofList_toList]
  exact resolve_backticked text

/-! ## All placeholders at once -/

/-- Names of elements with the texts of the elements, the innermost first. -/
abbrev Elements := List (String × String)

namespace Elements

/-- The text of the innermost element of which a word is the placeholder. -/
def textFor (es : Elements) (w : List Char) : Option String :=
  (es.find? fun q => '_' :: q.1.toList == w).map (·.2)

/-- What is put for a run: the text of the innermost element of which it is the placeholder, or else
the run itself. -/
def put (es : Elements) (r : Run) : List Char := ((es.textFor r.chars).map String.toList).getD r.chars

/-- In the text of an element no placeholder of an element further out stands as a whole word. -/
def Apart (es : Elements) : Prop :=
  es.Pairwise fun inner outer => ∀ r ∈ runs inName inner.2.toList, r.chars ≠ '_' :: outer.1.toList

/-- What the rules of the placeholders replace. -/
def touches (es : Elements) : List Touch :=
  es.map fun q => placeholderTouch q.1.toList q.2.toList

section Composing

variable {es : Elements} {q : String × String} {r : Run}

theorem put_of_none (h : es.textFor r.chars = none) : es.put r = r.chars := by
  rw [put, h]
  rfl

theorem textFor_cons_of_ne (h : r.chars ≠ '_' :: q.1.toList) :
    textFor (q :: es) r.chars = textFor es r.chars := by
  rw [textFor, List.find?_cons_of_neg (by simpa using h.symm)]
  rfl

theorem textFor_cons_of_eq (h : r.chars = '_' :: q.1.toList) :
    textFor (q :: es) r.chars = some q.2 := by
  rw [textFor, List.find?_cons_of_pos (by simp [h])]
  rfl

theorem textFor_eq_none {w : List Char} (h : ∀ q ∈ es, w ≠ '_' :: q.1.toList) :
    es.textFor w = none := by
  rw [textFor, Option.map_eq_none_iff, List.find?_eq_none]
  exact fun q hq => by simpa using (h q hq).symm

/-- A text without placeholders is left as it is, between whatever characters it stands. -/
theorem retouched_put_of_apart {s : List Char}
    (hapart : ∀ r ∈ runs inName s, textFor es r.chars = none) (b stop : Option Char) :
    retouched es.put (runsFrom inName b [] stop s) = s ++ stop.toList ∧
      (runsFrom inName b [] stop s).any (fun r => (es.textFor r.chars).isSome) = false := by
  have hnone : ∀ r ∈ runsFrom inName b [] stop s, textFor es r.chars = none := by
    intro r hr
    have hmem : r.chars ∈ (runsFrom inName b [] stop s).map Run.chars := List.mem_map_of_mem hr
    rw [map_chars_runsFrom] at hmem
    obtain ⟨r', hr', hchars⟩ := List.mem_map.mp hmem
    rw [← hchars]
    exact hapart r' hr'
  have hsame : retouched es.put (runsFrom inName b [] stop s) =
      retouched Run.chars (runsFrom inName b [] stop s) :=
    List.flatMap_congr fun r hr => by rw [put_of_none (hnone r hr)]
  refine ⟨?_, ?_⟩
  · rw [hsame, retouched_chars_from, List.nil_append]
  · rw [List.any_eq_false]
    intro r hr
    simp [hnone r hr]

/-- The innermost placeholder is put for a run before all others are looked for. -/
theorem first_touch (hr : r.Maximal inName)
    (hapart : ∀ r ∈ runs inName q.2.toList, textFor es r.chars = none) :
    retouched es.put (runsFrom inName r.before [] r.behind
        ((placeholderTouch q.1.toList q.2.toList).on r)) =
      put (q :: es) r ++ r.behind.toList ∧
    ((placeholderTouch q.1.toList q.2.toList).chooses r ||
        (runsFrom inName r.before [] r.behind ((placeholderTouch q.1.toList q.2.toList).on r)).any
          fun r => (es.textFor r.chars).isSome) =
      (textFor (q :: es) r.chars).isSome := by
  have hchooses : (placeholderTouch q.1.toList q.2.toList).chooses r =
      (r.chars == '_' :: q.1.toList) := by
    have hbefore : r.before.any inName = false := by
      cases hb : r.before with
      | none => rfl
      | some c => exact hr.before c hb
    show (!r.before.any inName && r.chars == '_' :: q.1.toList) = _
    rw [hbefore, Bool.not_false, Bool.true_and]
  by_cases hchars : r.chars = '_' :: q.1.toList
  · have hchosen : (placeholderTouch q.1.toList q.2.toList).chooses r = true := by
      rw [hchooses, hchars, beq_self_eq_true]
    have hnew : (placeholderTouch q.1.toList q.2.toList).new = q.2.toList := rfl
    obtain ⟨htext, -⟩ := retouched_put_of_apart hapart r.before r.behind
    rw [Touch.on_of_chosen hchosen, hnew, htext, put, textFor_cons_of_eq hchars, hchosen]
    exact ⟨rfl, rfl⟩
  · have hnot : (placeholderTouch q.1.toList q.2.toList).chooses r = false := by
      rw [hchooses, beq_eq_false_iff_ne.mpr hchars]
    rw [Touch.on_of_not_chosen hnot, hr.runsFrom_chars, hnot, put, textFor_cons_of_ne hchars]
    exact ⟨List.append_nil _, Bool.or_false _⟩

/-- Putting the placeholders one after the other is putting them all at once. -/
theorem foldl_touches (hapart : es.Apart) (o : Outcome) :
    es.touches.foldl (fun o t => t.outcome inName o) o =
      ⟨o.hit || (runs inName o.text.toList).any fun r => (es.textFor r.chars).isSome,
        String.ofList (retouched es.put (runs inName o.text.toList))⟩ := by
  induction es generalizing o with
  | nil =>
    have hnone : ∀ r ∈ runs inName o.text.toList, textFor [] r.chars = none := fun _ _ => rfl
    obtain ⟨htext, hany⟩ := retouched_put_of_apart hnone none none
    rw [runs, hany, htext, Bool.or_false, Option.toList_none, List.append_nil, String.ofList_toList]
    rfl
  | cons q es ih =>
    obtain ⟨hq, hes⟩ := List.pairwise_cons.mp hapart
    have hnone : ∀ r ∈ runs inName q.2.toList, textFor es r.chars = none :=
      fun r hr => textFor_eq_none fun outer houter => hq outer houter r hr
    have hfirst := fun r (hr : r ∈ runs inName o.text.toList) =>
      first_touch (maximal_of_mem_runs hr) hnone
    have htext : retouched (put es) ((runs inName o.text.toList).flatMap fun r =>
          runsFrom inName r.before [] r.behind ((placeholderTouch q.1.toList q.2.toList).on r)) =
        retouched (put (q :: es)) (runs inName o.text.toList) := by
      rw [retouched, List.flatMap_assoc]
      exact List.flatMap_congr fun r hr => (hfirst r hr).1
    have hhit : ((runs inName o.text.toList).any
          (placeholderTouch q.1.toList q.2.toList).chooses ||
        ((runs inName o.text.toList).flatMap fun r =>
          runsFrom inName r.before [] r.behind
            ((placeholderTouch q.1.toList q.2.toList).on r)).any
          fun r => (textFor es r.chars).isSome) =
        (runs inName o.text.toList).any fun r => (textFor (q :: es) r.chars).isSome := by
      rw [List.any_flatMap, Bool.eq_iff_iff, Bool.or_eq_true, List.any_eq_true, List.any_eq_true,
        List.any_eq_true, ← exists_or]
      refine exists_congr fun r => ?_
      rw [← and_or_left]
      refine and_congr_right fun hr => ?_
      rw [← Bool.or_eq_true, (hfirst r hr).2]
    rw [touches, List.map_cons, List.foldl_cons, ← touches, ih hes, Touch.outcome,
      String.toList_ofList, runs_retouched, htext, Bool.or_assoc, hhit]

/-- The element that counts is the innermost one of its name. -/
theorem put_of_innermost {inner outer : Elements} {name text : String}
    (hinner : ∀ q ∈ inner, q.1 ≠ name) (hr : r.chars = '_' :: name.toList) :
    put (inner ++ (name, text) :: outer) r = text.toList := by
  have hfound : textFor (inner ++ (name, text) :: outer) r.chars = some text := by
    have hnone : inner.find? (fun q => '_' :: q.1.toList == r.chars) = none := by
      refine List.find?_eq_none.mpr fun q hq => ?_
      rw [hr, beq_iff_eq, List.cons.injEq, String.toList_inj]
      exact fun h => hinner q hq h.2
    rw [textFor, List.find?_append, hnone, Option.none_or,
      List.find?_cons_of_pos (by simp [hr])]
    rfl
  rw [put, hfound]
  rfl

/-- A run is kept that is no placeholder. -/
theorem put_of_ne (h : ∀ q ∈ es, r.chars ≠ '_' :: q.1.toList) : es.put r = r.chars :=
  put_of_none (textFor_eq_none h)

theorem isSome_textFor {w : List Char} :
    (es.textFor w).isSome = true ↔ ∃ q ∈ es, w = '_' :: q.1.toList := by
  rw [textFor, Option.isSome_map, List.find?_isSome]
  exact exists_congr fun q => and_congr_right fun _ => beq_iff_eq.trans eq_comm

end Composing

end Elements

/-! ## Scopes that hold nothing but placeholders -/

/-- A scope whose only rules are those for the elements `es`, for each of which a level has been
entered. -/
inductive Scope.Filling : Elements → Scope → Prop
  | none {s : Scope} (h : s.groups = []) : Filling [] s
  /-- A pass is entered with an element that has a text. -/
  | pass {es : Elements} {s t : Session} (h : Filling es s.scope) {name shown : String} {v : Value}
      {m : Machine} (hne : name ≠ "") (hname : ∀ c ∈ name.toList, inName c = true)
      (htext : asText v s.machine = .ok shown m)
      (henter : Render.enterPass (some name) v s = .ok () t) : Filling ((name, shown) :: es) t.scope
  /-- A level without rules is entered. -/
  | enter {es : Elements} {s : Scope} (h : Filling es s) : Filling es s.enter
  /-- Something else is done that leaves the rules as they are. -/
  | keep {es : Elements} {s t : Scope} (h : Filling es s) (hframes : t.frames = s.frames) :
      Filling es t

namespace Scope

variable {es : Elements} {s : Scope}

/-- Each placeholder stands in a group of its own. -/
theorem Filling.alone (h : Filling es s) : ∃ levels : List (List Rule),
    s.Alone levels ∧ levels.flatten = es.map fun q => placeholder q.1 q.2 := by
  induction h with
  | @none s h => exact ⟨_, alone_of_groups_eq_nil h, by simp⟩
  | @pass es s t _ name shown v m hne _ htext henter ih =>
    obtain ⟨levels, halone, hlevels⟩ := ih
    have hpass : Render.enterPass (some name) v s =
        .ok () { s with scope := s.scope.passing name v shown, machine := m } :=
      Render.enterPass_of_ok hne htext
    cases hpass.symm.trans henter
    have hheld : (s.scope.passing name v shown).frame.held = Stencil.alone [placeholder name shown] :=
      Frame.held_newGroup _
    refine ⟨[placeholder name shown] :: levels, halone.enter rfl hheld, ?_⟩
    rw [List.flatten_cons, hlevels]
    rfl
  | enter _ ih =>
    obtain ⟨levels, halone, hlevels⟩ := ih
    exact ⟨[] :: levels, halone.enter rfl rfl, hlevels⟩
  | keep _ hframes ih =>
    obtain ⟨levels, halone, hlevels⟩ := ih
    exact ⟨levels, by rwa [Alone, hframes], hlevels⟩

theorem Filling.names (h : Filling es s) : ∀ q ∈ es, ∀ c ∈ q.1.toList, inName c = true := by
  induction h with
  | none => nofun
  | pass _ _ hname _ _ ih => exact List.forall_mem_cons.mpr ⟨hname, ih⟩
  | enter _ ih => exact ih
  | keep _ _ ih => exact ih

theorem Filling.filterOrFail (h : Filling es s) (hapart : es.Apart) (e : Evaluator) (text : String)
    (m : Machine) : s.filterOrFail e text m =
      .ok ⟨(runs inName text.toList).any fun r => (es.textFor r.chars).isSome,
        String.ofList (retouched es.put (runs inName text.toList))⟩ m := by
  obtain ⟨levels, halone, hlevels⟩ := h.alone
  have htouches : List.Forall₂ (fun r t => r.Touches inName t)
      (es.map fun q => placeholder q.1 q.2) es.touches := by
    rw [Elements.touches, List.forall₂_map_left_iff, List.forall₂_map_right_iff, List.forall₂_same]
    exact fun q hq => touches_placeholder (h.names q hq)
  rw [(halone.inTurn e).filter, hlevels, foldlM_apply_touches htouches,
    Elements.foldl_touches hapart]
  rfl

/-- What the placeholders do to a text. -/
structure FillsPlaceholders (s : Scope) (e : Evaluator) (es : Elements) (text : String)
    (m : Machine) : Prop where
  /-- The text falls into the runs of characters of names and the single characters between them. -/
  whole : retouched Run.chars (runs inName text.toList) = text.toList ∧
    ∀ r ∈ runs inName text.toList, r.Maximal inName
  /-- Something is put for each run, and nothing else is done. A hit tells that there is a
  placeholder among the runs. -/
  filter : ∃ hit, s.filter e text m =
      .ok (⟨hit, String.ofList (retouched es.put (runs inName text.toList))⟩, s) m ∧
    (hit = true ↔ ∃ r ∈ runs inName text.toList, ∃ q ∈ es, r.chars = '_' :: q.1.toList)
  /-- For a placeholder this is the text of the innermost element of its name, as it stands. -/
  replaced : ∀ inner name shown outer, es = inner ++ (name, shown) :: outer →
    (∀ q ∈ inner, q.1 ≠ name) → ∀ r : Run, r.chars = '_' :: name.toList → es.put r = shown.toList
  /-- Other runs are kept. -/
  kept : ∀ r : Run, (∀ q ∈ es, r.chars ≠ '_' :: q.1.toList) → es.put r = r.chars

/-- **The placeholders of nested passes are filled all at once**, as if none of them were looked for
in what has been put for the others. -/
theorem fills_placeholders (h : Filling es s) (hapart : es.Apart) (e : Evaluator) (text : String)
    (m : Machine) : s.FillsPlaceholders e es text m := by
  refine ⟨⟨retouched_chars _ _, fun r => maximal_of_mem_runs⟩,
    ⟨_, filter_of_ok (h.filterOrFail hapart e text m), ?_⟩, ?_, fun r => Elements.put_of_ne⟩
  · rw [List.any_eq_true]
    exact exists_congr fun r => and_congr_right fun _ => Elements.isSome_textFor
  · rintro inner name shown outer rfl hinner r hr
    exact Elements.put_of_innermost hinner hr

/-- A pass for a text. -/
theorem Filling.text (h : Filling es s) {name shown : String} (hne : name ≠ "")
    (hname : name.toList.all inName = true) :
    Filling ((name, shown) :: es) (s.passing name (.str shown) shown) := by
  have hpass : Render.enterPass (some name) (.str shown) { scope := s } =
      .ok () { scope := s.passing name (.str shown) shown } := Render.enterPass_of_ok hne rfl
  exact .pass (s := { scope := s }) h hne (List.all_eq_true.mp hname) rfl hpass

/-- Three passes, of which the innermost has the name of the outermost. The texts of their elements
begin like an expression, are empty, and hold characters with a meaning in patterns and a word that
begins like a placeholder. -/
def threePasses : Scope :=
  (((ofLayer []).passing "x" (.str "!_y") "!_y").passing "y" (.str "") "").passing "x"
    (.str "\\1 `_y2` (.*") "\\1 `_y2` (.*"

/-- The elements of these passes. -/
def threeElements : Elements := [("x", "\\1 `_y2` (.*"), ("y", ""), ("x", "!_y")]

theorem fills_placeholders_threePasses :
    Filling threeElements threePasses ∧ threeElements.Apart ∧
      threePasses.FillsPlaceholders .standard threeElements "_x _y_, f(_y)_x1/_x" {} ∧
      String.ofList (retouched threeElements.put (runs inName "_x _y_, f(_y)_x1/_x".toList)) =
        "\\1 `_y2` (.* _y_, f()_x1/\\1 `_y2` (.*" := by
  have hfilling : Filling threeElements threePasses :=
    ((Filling.text (.none rfl) (by decide) (by decide)).text (by decide) (by decide)).text
      (by decide) (by decide)
  have hapart : threeElements.Apart := by
    unfold Elements.Apart threeElements
    decide
  exact ⟨hfilling, hapart, fills_placeholders hfilling hapart .standard _ {}, by decide⟩

end Scope

end Stencil
