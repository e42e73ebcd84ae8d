import Stencil.Proofs.LineEnds
import Stencil.Proofs.Pulling
import Stencil.Proofs.Recording
/-!
# Stencil.Proofs.Commenting -- the lines of diagnostics

A message may be a text of any shape, and is cut at every boundary that a text can have. Its
diagnostic puts the lines together again with line feeds, with a comment sign before each further
one. So when a diagnostic is cut in its turn, whatever cuts it, the lines are those of the message
again: no boundary of the message is left in them, and each of them is a comment.

A diagnostic tells everything of its message but two things: which boundaries stood between the lines,
and whether one stood behind the last line.
-/

namespace Stencil.Text

/-! ## Messages cut at boundaries -/

section Cutting

variable {c : Char} {r l p : List Char} {ls : List (List Char)}

theorem lines_pair (r : List Char) : lines ('\r' :: '\n' :: r) = [] :: lines r := by
  rw [lines, linesWithBoundaries]
  rfl

theorem lines_of_boundary (hpair : ∀ r', c = '\r' → r = '\n' :: r' → False)
    (hc : isBoundary c = true) : lines (c :: r) = [] :: lines r := by
  have htake : takeLine (c :: r) = ([], [c], r) := by
    rw [takeLine, if_pos hc]
    exact hpair
  rw [lines, linesWithBoundaries, htake]
  rfl

theorem takeLine_of_inner (hc : isBoundary c = false) :
    takeLine (c :: r) = (c :: (takeLine r).1, (takeLine r).2) := by
  rw [takeLine, if_neg (Bool.eq_false_iff.mp hc)]
  rintro _ rfl
  cases hc

theorem lines_of_inner_last (hc : isBoundary c = false) : lines [c] = [[c]] := by
  rw [lines, linesWithBoundaries]
  rw [takeLine_of_inner hc, takeLine, linesWithBoundaries]
  rfl

theorem lines_of_inner (hc : isBoundary c = false) (h : lines r = l :: ls) :
    lines (c :: r) = (c :: l) :: ls := by
  cases r with
  | nil => rw [lines, linesWithBoundaries] at h; cases h
  | cons d r =>
    rw [lines, linesWithBoundaries] at h
    obtain ⟨rfl, rfl⟩ := List.cons.inj h
    rw [lines, linesWithBoundaries]
    rw [takeLine_of_inner hc]
    rfl

/-- What stands before a line feed without a boundary in it is a line. -/
theorem lines_append_feed (hp : ∀ c ∈ p, isBoundary c = false) (r : List Char) :
    lines (p ++ '\n' :: r) = p :: lines r := by
  induction p with
  | nil => exact lines_of_boundary nofun rfl
  | cons c p ih =>
    exact lines_of_inner (hp c List.mem_cons_self) (ih fun d hd => hp d (List.mem_cons_of_mem c hd))

theorem lines_of_unbroken (hp : ∀ c ∈ p, isBoundary c = false) (hne : p ≠ []) : lines p = [p] := by
  induction p with
  | nil => exact absurd rfl hne
  | cons c p ih =>
    have hc := hp c List.mem_cons_self
    cases p with
    | nil => exact lines_of_inner_last hc
    | cons d p =>
      exact lines_of_inner hc
        (ih (fun a ha => hp a (List.mem_cons_of_mem c ha)) (List.cons_ne_nil d p))

end Cutting

/-- A text with a line feed for each of its boundaries. -/
def evened : List Char → List Char
  | [] => []
  | '\r' :: '\n' :: r => '\n' :: evened r
  | c :: r => (if isBoundary c then '\n' else c) :: evened r

/-- Induction on a text as it is cut into lines. -/
@[elab_as_elim]
theorem linesInduction {motive : List Char → Prop} (nil : motive [])
    (pair : ∀ r, motive r → motive ('\r' :: '\n' :: r))
    (boundary : ∀ c r, (∀ r', c = '\r' → r = '\n' :: r' → False) → isBoundary c = true →
      motive r → motive (c :: r))
    (last : ∀ c, isBoundary c = false → motive [c])
    (inner : ∀ c r l ls, isBoundary c = false → r ≠ [] → lines r = l :: ls → motive r →
      motive (c :: r)) (s : List Char) : motive s := by
  induction s using evened.induct with
  | case1 => exact nil
  | case2 r ih => exact pair r ih
  | case3 c r hpair ih =>
    cases hc : isBoundary c with
    | true => exact boundary c r hpair hc ih
    | false =>
      cases r with
      | nil => exact last c hc
      | cons d r =>
        have hlines : lines (d :: r) ≠ [] := by
          rw [lines, linesWithBoundaries]
          exact List.cons_ne_nil _ _
        obtain ⟨l, ls, h⟩ := List.exists_cons_of_ne_nil hlines
        exact inner c (d :: r) l ls hc (List.cons_ne_nil d r) h ih

/-- No line holds a boundary. -/
theorem isBoundary_of_mem_lines {s l : List Char} (hl : l ∈ lines s) {c : Char} (hc : c ∈ l) :
    isBoundary c = false := by
  induction s using linesInduction generalizing l with
  | nil => rw [lines, linesWithBoundaries] at hl; cases hl
  | pair r ih =>
    rw [lines_pair, List.mem_cons] at hl
    rcases hl with rfl | hl
    · cases hc
    · exact ih hl hc
  | boundary d r hpair hd ih =>
    rw [lines_of_boundary hpair hd, List.mem_cons] at hl
    rcases hl with rfl | hl
    · cases hc
    · exact ih hl hc
  | last d hd =>
    rw [lines_of_inner_last hd, List.mem_singleton] at hl
    rw [hl, List.mem_singleton] at hc
    exact hc ▸ hd
  | inner d r m ms hd _ h ih =>
    rw [lines_of_inner hd h, List.mem_cons] at hl
    rw [h] at ih
    rcases hl with rfl | hl
    · rcases List.mem_cons.mp hc with rfl | hc
      · exact hd
      · exact ih List.mem_cons_self hc
    · exact ih (List.mem_cons_of_mem m hl) hc

/-! ## Messages up to their boundaries -/

/-- A text with a line feed at its end, unless there is one or nothing before it. -/
def ended (s : List Char) : List Char :=
  if s = [] ∨ s.getLast? = some '\n' then s else s ++ ['\n']

/-- A text without the line feed at its end. -/
def unended (s : List Char) : List Char := if s.getLast? = some '\n' then s.dropLast else s

/-- What a diagnostic keeps of its message: line feeds for the boundaries, and none behind the last
line. -/
def told (s : List Char) : List Char := unended (evened s)

theorem ended_cons {c : Char} {s : List Char} (h : s ≠ [] ∨ c = '\n') :
    ended (c :: s) = c :: ended s := by
  cases s with
  | nil =>
    obtain rfl := h.resolve_left fun hne => hne rfl
    rfl
  | cons d s =>
    rw [ended, ended, List.getLast?_cons_cons]
    by_cases hlast : (d :: s).getLast? = some '\n'
    · rw [if_pos (.inr hlast), if_pos (.inr hlast)]
    · rw [if_neg (by simpa using hlast), if_neg (by simpa using hlast), List.cons_append]

theorem unended_ended (s : List Char) : unended (ended s) = unended s := by
  rw [ended]
  split
  · rfl
  · next h =>
    rw [unended, List.getLast?_concat, if_pos rfl, List.dropLast_concat, unended,
      if_neg fun hlast => h (.inr hlast)]

theorem evened_of_boundary {c : Char} {r : List Char}
    (hpair : ∀ r', c = '\r' → r = '\n' :: r' → False) (hc : isBoundary c = true) :
    evened (c :: r) = '\n' :: evened r := by
  rw [evened, if_pos hc]
  exact hpair

theorem evened_of_inner {c : Char} {r : List Char} (hc : isBoundary c = false) :
    evened (c :: r) = c :: evened r := by
  rw [evened, if_neg (Bool.eq_false_iff.mp hc)]
  rintro _ rfl
  cases hc

theorem evened_ne_nil {s : List Char} (h : s ≠ []) : evened s ≠ [] := by
  cases s using evened.fun_cases with
  | case1 => exact absurd rfl h
  | case2 r => rw [evened]; exact List.cons_ne_nil _ _
  | case3 c r hpair =>
    rw [evened]
    · exact List.cons_ne_nil _ _
    · exact hpair

/-- The lines of a text, each with a line feed. -/
theorem unlines_lines (s : List Char) : unlines (lines s) = ended (evened s) := by
  induction s using linesInduction with
  | nil => rw [lines, linesWithBoundaries]; rfl
  | pair r ih =>
    rw [lines_pair, unlines_cons, ih, evened, ended_cons (.inr rfl), List.nil_append]
  | boundary c r hpair hc ih =>
    rw [lines_of_boundary hpair hc, unlines_cons, ih, evened_of_boundary hpair hc,
      ended_cons (.inr rfl), List.nil_append]
  | last c hc =>
    have hfeed : c ≠ '\n' := by rintro rfl; cases hc
    rw [lines_of_inner_last hc, unlines_cons, evened_of_inner hc, evened, ended, if_neg]
    · rfl
    · simpa using hfeed
  | inner c r l ls hc hr h ih =>
    rw [h, unlines_cons] at ih
    rw [lines_of_inner hc h, unlines_cons, List.cons_append, ih, evened_of_inner hc,
      ended_cons (.inl (evened_ne_nil hr))]

/-- The lines of a text with line feeds between them. -/
theorem join_lines (s : List Char) : join ['\n'] (lines s) = told s := by
  rw [told, ← unended_ended, ← unlines_lines]
  cases h : lines s with
  | nil => rfl
  | cons l ls =>
    rw [← join_append_feed (List.cons_ne_nil l ls), unended, List.getLast?_concat, if_pos rfl,
      List.dropLast_concat]

/-! ## Comments -/

/-- What a character of a message becomes in a diagnostic: a line feed opens a further comment. -/
def remark (c : Char) : List Char := if c = '\n' then ['\n', '/', '/'] else [c]

theorem remark_injective {s t : List Char} (h : s.flatMap remark = t.flatMap remark) : s = t := by
  -- Each character stands first in what it becomes.
  have hremark : ∀ c, ∃ r, remark c = c :: r := fun c => by
    by_cases hc : c = '\n'
    · exact ⟨['/', '/'], by rw [remark, if_pos hc, hc]⟩
    · exact ⟨[], by rw [remark, if_neg hc]⟩
  induction s generalizing t with
  | nil =>
    cases t with
    | nil => rfl
    | cons d t =>
      obtain ⟨r, hr⟩ := hremark d
      rw [List.flatMap_cons, hr] at h
      cases h
  | cons c s ih =>
    cases t with
    | nil =>
      obtain ⟨r, hr⟩ := hremark c
      rw [List.flatMap_cons, hr] at h
      cases h
    | cons d t =>
      rw [List.flatMap_cons, List.flatMap_cons] at h
      obtain rfl : c = d := by
        obtain ⟨r, hr⟩ := hremark c
        obtain ⟨r', hr'⟩ := hremark d
        rw [hr, hr'] at h
        exact (List.cons.inj h).1
      rw [ih (List.append_cancel_left h)]

/-- Putting comment signs between lines is turning the line feeds between them into comments. -/
theorem join_comment {ls : List (List Char)} (hls : ∀ l ∈ ls, ∀ c ∈ l, isBoundary c = false) :
    join ['\n', '/', '/'] ls = (join ['\n'] ls).flatMap remark := by
  have hkept : ∀ l : List Char, (∀ c ∈ l, isBoundary c = false) → l.flatMap remark = l := by
    intro l hl
    have hsingle : l.flatMap remark = l.flatMap fun c => [c] :=
      List.flatMap_congr fun c hc => if_neg fun heq => nomatch heq ▸ hl c hc
    rw [hsingle, List.flatMap_singleton']
  induction ls with
  | nil => rfl
  | cons l ls ih =>
    have hl := hkept l (hls l List.mem_cons_self)
    cases ls with
    | nil => exact hl.symm
    | cons m ls =>
      have hjoin : ∀ sep, join sep (l :: m :: ls) = l ++ sep ++ join sep (m :: ls) := fun _ => rfl
      rw [hjoin, hjoin, ih fun k hk => hls k (List.mem_cons_of_mem l hk), List.flatMap_append,
        List.flatMap_append, hl]
      rfl

/-- Lines, of which each but the first has a comment sign before it, are read as they are; the first
stands behind `p`. -/
theorem lines_join_comment {p l : List Char} {ls : List (List Char)} (hne : p ≠ [])
    (hp : ∀ c ∈ p, isBoundary c = false) (hls : ∀ k ∈ l :: ls, ∀ c ∈ k, isBoundary c = false) :
    lines (p ++ join ['\n', '/', '/'] (l :: ls)) = (p ++ l) :: ls.map (['/', '/'] ++ ·) := by
  induction ls generalizing p l with
  | nil =>
    have hfirst := List.forall_mem_append.mpr ⟨hp, hls l List.mem_cons_self⟩
    exact lines_of_unbroken hfirst (List.append_ne_nil_of_left_ne_nil hne l)
  | cons m ls ih =>
    have hfirst := List.forall_mem_append.mpr ⟨hp, hls l List.mem_cons_self⟩
    have hcut : p ++ join ['\n', '/', '/'] (l :: m :: ls) =
        (p ++ l) ++ '\n' :: (['/', '/'] ++ join ['\n', '/', '/'] (m :: ls)) := by
      simp [join]
    rw [hcut, lines_append_feed hfirst,
      ih (List.cons_ne_nil _ _) (by simp [isBoundary]) fun k hk => hls k (List.mem_cons_of_mem l hk)]
    rfl

end Stencil.Text

namespace Stencil

open Stencil.Expr Render Text

/-- What stands before the first line of a message. -/
def commentMark : List Char := (errorMark ++ " // ").toList

/-- The lines of a diagnostic of a message with the given lines. -/
def commented : List (List Char) → List (List Char)
  | [] => [commentMark]
  | l :: ls => (commentMark ++ l) :: ls.map (['/', '/'] ++ ·)

theorem length_commented (ls : List (List Char)) : (commented ls).length = max 1 ls.length := by
  cases ls with
  | nil => rfl
  | cons l ls => rw [commented, List.length_cons, List.length_map, List.length_cons]; omega

theorem toList_diagnostic (message : String) :
    (diagnostic message).toList =
      commentMark ++ join ['\n', '/', '/'] (lines message.toList) := by
  rw [diagnostic, String.toList_append, String.toList_ofList]
  rfl

/-- The lines of a diagnostic are those of its message, as comments. -/
theorem lines_diagnostic (message : String) :
    lines (diagnostic message).toList = commented (lines message.toList) := by
  have hall : commentMark.all (!isBoundary ·) = true := by decide +kernel
  have hmark : ∀ c ∈ commentMark, isBoundary c = false := by simpa using hall
  have hne : commentMark ≠ [] := by decide +kernel
  rw [toList_diagnostic]
  cases h : lines message.toList with
  | nil => exact lines_of_unbroken (by simpa [join] using hmark) (by simpa [join] using hne)
  | cons l ls =>
    exact lines_join_comment hne hmark (h ▸ fun k hk c => isBoundary_of_mem_lines hk)

theorem diagnostic_eq_iff (message message' : String) :
    diagnostic message = diagnostic message' ↔ told message.toList = told message'.toList := by
  have hcomments : ∀ text : String,
      (diagnostic text).toList = commentMark ++ (told text.toList).flatMap remark := fun text => by
    rw [toList_diagnostic, join_comment fun l hl c => isBoundary_of_mem_lines hl, join_lines]
  rw [← String.toList_inj, hcomments, hcomments, List.append_cancel_left_eq]
  exact ⟨remark_injective, congrArg (List.flatMap remark)⟩

/-! ## Lines whose patterns fail -/

/-- Lines of which each is a comment: the first has the mark of a diagnostic before it, and the others
have a comment sign. -/
def Remarks (ls : List (List Char)) : Prop :=
  ∃ l ls', ls = l :: ls' ∧ commentMark <+: l ∧ ∀ k ∈ ls', ['/', '/'] <+: k

theorem remarks_commented (ls : List (List Char)) : Remarks (commented ls) := by
  cases ls with
  | nil => exact ⟨commentMark, [], rfl, List.prefix_rfl, nofun⟩
  | cons l ls =>
    refine ⟨_, _, rfl, List.prefix_append _ _, fun k hk => ?_⟩
    obtain ⟨k', -, rfl⟩ := List.mem_map.mp hk
    exact List.prefix_append _ _

/-- A line that comes to a pattern that fails is handed out as the diagnostic of the failure. -/
theorem runWithin_line_of_failing (limit : Nat) {e : Evaluator} {s : Session} {text : String}
    {p : Stop} {f : Failure} {m' : Machine} (hcomes : s.scope.Comes e text s.machine p)
    (hfails : p.rule.PatternFails e s.scope.bindings p.machine f m') :
    ∃ out t, (Node.line text).runWithin limit e none s = (out, none, t) ∧
      out.toList.map (·.text) = [diagnostic f.message] := by
  have hfilter : s.scope.filterOrFail e text s.machine = .error f m' :=
    Scope.filterOrFail_eq_error_iff.mpr ⟨p, hcomes, hfails⟩
  have hrun : (Node.line text).render e limit (apart s) = .ok () (handed (diagnostic f.message)
      (recorded f.messageOrKind { apart s with machine := m' })) := by
    rw [Node.render, bind_of_ok (filterLine_of_error (s := apart s) hfilter), emit_of_all _ rfl]
  exact ⟨_, _, Node.runWithin_of_ok none (Option.some_ne_none 0).symm hrun, rfl⟩

/-- **Diagnostics stay comments.** Whatever boundaries a message has, the lines of its diagnostic are
its lines, each as a comment, and at least one. Two messages have the same diagnostic when they agree
up to the kinds of their boundaries and one behind the last line. What a pattern that fails leaves in
the output is comments only. -/
theorem diagnostics_are_comments :
    (∀ message, lines (diagnostic message).toList = commented (lines message.toList) ∧
      (lines (diagnostic message).toList).length = max 1 (lines message.toList).length) ∧
    (∀ message message', diagnostic message = diagnostic message' ↔
      told message.toList = told message'.toList) ∧
    (∀ limit e (s : Session) text p f m', s.scope.Comes e text s.machine p →
      p.rule.PatternFails e s.scope.bindings p.machine f m' →
      ∃ out t, (Node.line text).runWithin limit e none s = (out, none, t) ∧
        out.toList.map (·.text) = [diagnostic f.message] ∧
        Remarks (lines (diagnostic f.message).toList)) := by
  refine ⟨fun message => ⟨lines_diagnostic message, ?_⟩, diagnostic_eq_iff, ?_⟩
  · rw [lines_diagnostic, length_commented]
  · intro limit e s text p f m' hcomes hfails
    obtain ⟨out, t, hrun, htexts⟩ := runWithin_line_of_failing limit hcomes hfails
    exact ⟨out, t, hrun, htexts, lines_diagnostic f.message ▸ remarks_commented _⟩

/-- A rule whose pattern is an expression. -/
def askingRule : Rule := ⟨.plain, "!x", ""⟩

/-- The machine after the expression has been asked for. -/
def patternAsked : Machine := { journal := ["x"] }

/-- A failure in two lines, and something that looks like a third. -/
def brokenMessage : Failure := .fault .badValue "boom\r\nint i;\x85"

theorem diagnostics_are_comments_asking :
    askingRule.PatternFails (.table [] [("x", brokenMessage)]) {} {} brokenMessage patternAsked ∧
      ∃ out t, (Node.line "a").runWithin 0 (.table [] [("x", brokenMessage)]) none
          { scope := ({} : Scope).add askingRule } = (out, none, t) ∧
        out.toList.map (·.text) = ["[[ERROR]] // boom\n//int i;"] ∧
        Remarks (lines "[[ERROR]] // boom\n//int i;".toList) := by
  have hfails : askingRule.PatternFails (.table [] [("x", brokenMessage)]) {} {} brokenMessage
      patternAsked := .uncomputed rfl
  have hcomes : (({} : Scope).add askingRule).Comes (.table [] [("x", brokenMessage)]) "a" {}
      ⟨askingRule, [], [], Outcome.initial "a", {}⟩ := .here
  have hshown : diagnostic brokenMessage.message = "[[ERROR]] // boom\n//int i;" := by
    decide +kernel
  refine ⟨hfails, ?_⟩
  rw [← hshown]
  exact diagnostics_are_comments.2.2 0 _ { scope := ({} : Scope).add askingRule } "a" _ _ _ hcomes
    hfails

end Stencil
