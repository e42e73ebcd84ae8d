import Mathlib.Data.List.Chain
import Stencil.Proofs.LineEnds
import Stencil.Proofs.Pulling
import Stencil.Proofs.Collapsing
import Stencil.Proofs.Lengthening
/-!
# Stencil.Proofs.Inserting -- the lines of inserted text

An insertion hands out the text of a value as lines. What ends a line is a line feed, a carriage
return, or the two of them in this order, in any mixture; nothing else does. A text is therefore given
by its pieces, each with what ends it, and the lines are the pieces as they were. There is one way in
which pieces can run together: a carriage return and the line feed behind it count as one line end,
so an empty piece that a line feed ends must not follow a carriage return.

The end of the last piece may be missing. Then the piece is a line unless it is empty; only where it
is the whole text is an empty piece a line, since every text has at least one.
-/

namespace Stencil.Text

/-! ## Pieces and their ends -/

/-- What can end a line. -/
inductive LineEnd where
  | feed
  | return
  | pair
  deriving DecidableEq, Repr

/-- The characters of a line end. -/
def LineEnd.chars : LineEnd → List Char
  | .feed => ['\n']
  | .return => ['\r']
  | .pair => ['\r', '\n']

/-- A piece of text, and what ends it. -/
structure Piece where
  text : List Char
  ending : LineEnd
  deriving DecidableEq, Repr

/-- The text that pieces make up. -/
def terminated (ps : List Piece) : List Char := ps.flatMap fun p => p.text ++ p.ending.chars

/-- A line end that takes the next piece's into itself: a carriage return before an empty piece that
a line feed ends. -/
def Piece.merges (p q : Piece) : Prop := p.ending = .return ∧ q.text = [] ∧ q.ending = .feed

/-- Pieces that can be told apart in the text they make up: no piece holds a line end, and no two
line ends are one. -/
structure Distinct (ps : List Piece) : Prop where
  inner : ∀ p ∈ ps, ∀ c ∈ p.text, endsLine c = false
  unmerged : ps.IsChain fun p q => ¬p.merges q

theorem Distinct.tail {p : Piece} {ps : List Piece} (h : Distinct (p :: ps)) : Distinct ps :=
  ⟨fun q hq => h.inner q (List.mem_cons_of_mem p hq), h.unmerged.tail⟩

theorem terminated_cons (p : Piece) (ps : List Piece) :
    terminated (p :: ps) = p.text ++ (p.ending.chars ++ terminated ps) := by
  rw [terminated, List.flatMap_cons, List.append_assoc, terminated]

/-- What is behind a piece does not begin with a line feed that belongs to its carriage return. -/
theorem Distinct.head_ne_feed {p : Piece} {ps : List Piece} {w : List Char}
    (h : Distinct (p :: ps)) (hw : ∀ c ∈ w, endsLine c = false) (hp : p.ending = .return)
    (r : List Char) : terminated ps ++ w ≠ '\n' :: r := by
  have hfeed : endsLine '\n' = true := rfl
  intro heq
  cases ps with
  | nil =>
    have hmem : '\n' ∈ w := by
      rw [show w = '\n' :: r from heq]
      exact List.mem_cons_self
    exact absurd (hw _ hmem) (by rw [hfeed]; nofun)
  | cons q ps =>
    rw [terminated_cons, List.append_assoc] at heq
    obtain ⟨text, ending⟩ := q
    cases text with
    | nil =>
      cases ending with
      | feed => exact (List.isChain_cons_cons.mp h.unmerged).1 ⟨hp, rfl, rfl⟩
      | «return» => cases heq
      | pair => cases heq
    | cons c text =>
      obtain ⟨rfl, -⟩ := List.cons.inj heq
      have hc := h.inner ⟨'\n' :: text, ending⟩ (by simp) '\n' List.mem_cons_self
      exact absurd hc (by rw [hfeed]; nofun)

/-- A piece is cut off behind its end, unless what follows continues that end. -/
theorem cutTerminators_piece {l : List Char} (hl : ∀ c ∈ l, endsLine c = false) {t : LineEnd}
    {r : List Char} (ht : t = .return → ∀ r', r ≠ '\n' :: r') :
    cutTerminators (l ++ (t.chars ++ r)) = l :: cutTerminators r := by
  induction l with
  | nil =>
    cases t with
    | feed => exact cutTerminators_of_end nofun rfl
    | «return» => exact cutTerminators_of_end (fun r' _ hr => ht rfl r' hr) rfl
    | pair =>
      show cutTerminators ('\r' :: '\n' :: r) = _
      rw [cutTerminators]
  | cons c l ih =>
    exact cutTerminators_of_inner (hl c List.mem_cons_self)
      (ih fun d hd => hl d (List.mem_cons_of_mem c hd))

theorem cutTerminators_of_inner_only {w : List Char} (hw : ∀ c ∈ w, endsLine c = false) :
    cutTerminators w = [w] := by
  induction w with
  | nil => rfl
  | cons c w ih =>
    exact cutTerminators_of_inner (hw c List.mem_cons_self)
      (ih fun d hd => hw d (List.mem_cons_of_mem c hd))

/-- Pieces are cut as they were put together, and what is behind them is one more piece. -/
theorem cutTerminators_terminated {ps : List Piece} (h : Distinct ps) {w : List Char}
    (hw : ∀ c ∈ w, endsLine c = false) :
    cutTerminators (terminated ps ++ w) = ps.map (·.text) ++ [w] := by
  induction ps with
  | nil => exact cutTerminators_of_inner_only hw
  | cons p ps ih =>
    rw [terminated_cons, List.append_assoc, List.append_assoc,
      cutTerminators_piece (h.inner p List.mem_cons_self) (h.head_ne_feed hw), ih h.tail]
    rfl

/-! ## Lines of texts -/

/-- Where the last of several pieces is empty, it is no line. -/
theorem textLines_of_ended {s : List Char} {ls : List (List Char)}
    (h : cutTerminators s = ls ++ [[]]) (hls : ls ≠ []) : textLines s = ls := by
  have hlength : 1 < (cutTerminators s).length := by
    have := List.length_pos_iff.mpr hls
    rw [h, List.length_append, List.length_singleton]
    omega
  have hlast : (cutTerminators s).getLast? = some [] := by rw [h, List.getLast?_concat]
  rw [textLines, if_pos (by simpa using ⟨hlength, hlast⟩), h, List.dropLast_concat]

/-- Otherwise every piece is a line. -/
theorem textLines_of_open {s : List Char}
    (h : (cutTerminators s).length ≤ 1 ∨ (cutTerminators s).getLast? ≠ some []) :
    textLines s = cutTerminators s := by
  rw [textLines, if_neg]
  rw [Bool.and_eq_true, decide_eq_true_iff, beq_iff_eq]
  rintro ⟨hlength, hlast⟩
  rcases h with h | h
  · omega
  · exact h hlast

/-- The lines of a text are its pieces, but for an empty one behind the last line end. -/
theorem textLines_cases (s : List Char) :
    textLines s = cutTerminators s ∨
      (textLines s ≠ [] ∧ cutTerminators s = textLines s ++ [[]]) := by
  by_cases hlast : (cutTerminators s).getLast? = some []
  · obtain ⟨ls, hls⟩ := List.getLast?_eq_some_iff.mp hlast
    cases ls with
    | nil => exact .inl (textLines_of_open (.inl (by rw [hls]; exact Nat.le_refl 1)))
    | cons l ls =>
      have htext := textLines_of_ended hls (List.cons_ne_nil l ls)
      exact .inr ⟨htext ▸ List.cons_ne_nil l ls, htext ▸ hls⟩
  · exact .inl (textLines_of_open (.inr hlast))

theorem textLines_terminated {ps : List Piece} (h : Distinct ps) (hps : ps ≠ []) :
    textLines (terminated ps) = ps.map (·.text) := by
  refine textLines_of_ended ?_ (by simpa using hps)
  rw [← cutTerminators_terminated h (w := []) nofun, List.append_nil]

/-- The same pieces without the last line end. -/
theorem textLines_unterminated {ps : List Piece} (h : Distinct ps) (hps : ps ≠ [])
    (hlast : (ps.getLast hps).text ≠ [] ∨ ps.length = 1) {s : List Char}
    (hs : s ++ (ps.getLast hps).ending.chars = terminated ps) : textLines s = ps.map (·.text) := by
  obtain ⟨qs, p, rfl⟩ := (List.eq_nil_or_concat' ps).resolve_left hps
  rw [List.getLast_concat] at hlast hs
  have hqs : Distinct qs :=
    ⟨fun q hq => h.inner q (List.mem_append_left _ hq), h.unmerged.left_of_append⟩
  have hsplit : s = terminated qs ++ p.text := by
    rw [terminated, List.flatMap_append, List.flatMap_singleton, ← List.append_assoc] at hs
    exact List.append_cancel_right hs
  have hcut := cutTerminators_terminated hqs (h.inner p (by simp))
  rw [← hsplit] at hcut
  rw [textLines_of_open, hcut, List.map_append, List.map_singleton]
  rw [hcut]
  rcases hlast with hlast | hlast
  · right
    rw [List.getLast?_concat]
    exact fun heq => hlast (Option.some.inj heq)
  · left
    rw [List.length_append, List.length_singleton] at hlast ⊢
    rw [List.length_map]
    omega

/-! ## What every text has in common -/

/-- What is kept of a text by the lines it is cut into: they hold no line end, and put together again
they differ from the text in its line ends, of which the last may be missing. -/
structure CleanCut (s : List Char) (ls : List (List Char)) : Prop where
  /-- Every text has a line. -/
  some_line : ls ≠ []
  inner : ∀ l ∈ ls, ∀ c ∈ l, endsLine c = false
  joined : join ['\n'] ls = unified s ∨ join ['\n'] ls ++ ['\n'] = unified s
  /-- Only line ends are left out: every other character, a line boundary of another kind too, stands
  within a line. -/
  kept : ls.flatten = s.filter (!endsLine ·)

theorem flatten_cutTerminators (s : List Char) :
    (cutTerminators s).flatten = s.filter (!endsLine ·) := by
  induction s using cutInduction with
  | nil => rfl
  | pair r ih =>
    rw [cutTerminators, List.flatten_cons, List.nil_append, ih]
    rfl
  | ending c r hpair hc ih =>
    rw [cutTerminators_of_end hpair hc, List.flatten_cons, List.nil_append, ih,
      List.filter_cons_of_neg (by simp [hc])]
  | inner c r l ls hc h ih =>
    rw [cutTerminators_of_inner hc h, List.filter_cons_of_pos (by simp [hc]), ← ih, h]
    rfl

theorem cleanCut_textLines (s : List Char) : CleanCut s (textLines s) := by
  have hpieces := unlines_cutTerminators s
  have hflatten := flatten_cutTerminators s
  rcases textLines_cases s with heq | ⟨hlines, heq⟩
  · rw [heq]
    refine ⟨cutTerminators_ne_nil s, fun l hl c => endsLine_of_mem_cutTerminators hl,
      .inl ?_, hflatten⟩
    rw [← join_append_feed (cutTerminators_ne_nil s)] at hpieces
    exact List.append_cancel_right hpieces
  · have hmem : ∀ l ∈ textLines s, l ∈ cutTerminators s := by
      rw [heq]
      exact fun l hl => List.mem_append_left _ hl
    refine ⟨hlines, fun l hl c => endsLine_of_mem_cutTerminators (hmem l hl), .inr ?_, ?_⟩
    · rw [join_append_feed hlines]
      rw [heq, unlines, List.flatMap_append] at hpieces
      exact List.append_cancel_right hpieces
    · rw [heq, List.flatten_append] at hflatten
      simpa using hflatten

end Stencil.Text

/-! ## Insertions -/

namespace Stencil

open Stencil.Expr Render Text

variable {e : Evaluator} {limit : Nat} {s : Session} {text indent shown : String} {v : Value}
  {m m' : Machine}

/-- An insertion hands out the given lines with its indentation before them. Nothing is recorded, and
rendering does not end. -/
def Inserts (e : Evaluator) (limit : Nat) (s : Session) (text indent : String)
    (ls : List (List Char)) : Prop :=
  ∃ out t, (Node.insert text indent).runWithin limit e none s = (out, none, t) ∧
    out.toList.map (·.text) = ls.map (fun l => indent ++ String.ofList l) ∧ t.scope = s.scope

theorem inserts_textLines (hvalue : s.scope.evaluate e text s.machine = .ok v m)
    (hshown : asText v m = .ok shown m') :
    Inserts e limit s text indent (textLines shown.toList) := by
  have hact : act (asText v) { apart s with machine := m } =
      .ok shown { apart s with machine := m' } := act_of_ok hshown
  obtain ⟨t, hemit, hscope, -, -, htexts⟩ := emitAll_of_all
    (s := { apart s with machine := m' })
    ((textLines shown.toList).map fun l => indent ++ String.ofList l) rfl
  have hrun : (Node.insert text indent).render e limit (apart s) = .ok () t := by
    rw [Node.render, insertNode_of_ok (s := apart s) indent hvalue, bind_of_ok hact, hemit]
  exact ⟨t.lines, apart t, Node.runWithin_of_ok none nofun hrun, htexts, hscope⟩

/-- **Inserted text is cut into clean lines.** The lines handed out are those of a clean cut of the
text. Where the text is made up of pieces that can be told apart, the lines are the pieces; so they are
where the last line end is missing, unless the last of several pieces is empty. -/
theorem insert_clean_lines (hvalue : s.scope.evaluate e text s.machine = .ok v m)
    (hshown : asText v m = .ok shown m') :
    ∃ ls, Inserts e limit s text indent ls ∧ CleanCut shown.toList ls ∧
      ∀ ps (hps : ps ≠ []), Distinct ps →
        (shown.toList = terminated ps → ls = ps.map (·.text)) ∧
        ((ps.getLast hps).text ≠ [] ∨ ps.length = 1 →
          shown.toList ++ (ps.getLast hps).ending.chars = terminated ps → ls = ps.map (·.text)) := by
  refine ⟨textLines shown.toList, inserts_textLines hvalue hshown, cleanCut_textLines _, ?_⟩
  intro ps hps hdistinct
  constructor
  · intro heq
    rw [heq]
    exact textLines_terminated hdistinct hps
  · intro hlast heq
    exact textLines_unterminated hdistinct hps hlast heq

/-- A text with the three line ends and a form feed, as the value of a name. -/
def mixedEnds : Session := { scope := .ofLayer [("xs", .str "a\r\n\r\x0cb\n")] }

theorem insert_mixedEnds :
    mixedEnds.scope.evaluate .standard "xs" mixedEnds.machine =
        .ok (.str "a\r\n\r\x0cb\n") mixedEnds.machine ∧
      Inserts .standard 0 mixedEnds "xs" "  " [['a'], [], ['\x0c', 'b']] := by
  have hvalue : mixedEnds.scope.evaluate .standard "xs" mixedEnds.machine =
      .ok (.str "a\r\n\r\x0cb\n") mixedEnds.machine := evaluate_name rfl _
  obtain ⟨ls, hinserts, -, hpieces⟩ := insert_clean_lines hvalue rfl
  have hdistinct : Distinct [⟨['a'], .pair⟩, ⟨[], .return⟩, ⟨['\x0c', 'b'], .feed⟩] :=
    ⟨by simp [endsLine], by simp [Piece.merges]⟩
  have hls := (hpieces _ (List.cons_ne_nil _ _) hdistinct).1 rfl
  subst hls
  exact ⟨hvalue, hinserts⟩

end Stencil
