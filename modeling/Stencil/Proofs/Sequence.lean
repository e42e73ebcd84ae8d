import Stencil.Proofs.Outline
import Stencil.Proofs.Pulling
/-!
# Stencil.Proofs.Sequence -- one template behind the other

A template whose blocks are all closed and whose patterns all have their replacements can be read
apart from what follows it. What is read behind it goes on top of what has been built, and the tree
of the whole is the two trees side by side. Rendering goes through them in that order: the second
begins in the session that the first has left, and the lines that have been handed out before do not
matter to it.
-/

namespace Stencil

open Stencil.Expr Render

/-! ## Building -/

namespace Builder

/-- A builder that goes on behind what another has built: it keeps its own blocks and its own
waiting pattern. -/
def onto (c b : Builder) : Builder where
  top := c.top ++ b.top
  blocks := c.blocks
  pending := c.pending
  filename := c.filename.or b.filename
  reports := c.reports ++ b.reports

section Onto

variable (c b : Builder)

theorem append_onto (n : Node) : (c.onto b).append n = (c.append n).onto b := by
  rw [append, append]
  cases hblocks : c.blocks with
  | nil => simp [onto, hblocks]
  | cons o os => simp [onto, hblocks]

theorem command_onto (d : Command) : (c.onto b).command d = (c.command d).onto b := by
  obtain ⟨kind, text, indent⟩ := d
  cases kind with
  | blockOpen loop => rfl
  | blockClose =>
    rw [command, command]
    cases hblocks : c.blocks with
    | nil =>
      have hopen : (c.onto b).blocks = [] := hblocks
      simp only [closeBlock, hblocks, hopen]
      exact append_onto c b _
    | cons o os =>
      have hopen : (c.onto b).blocks = o :: os := hblocks
      simp only [closeBlock, hblocks, hopen]
      rw [← append_onto, ← append_onto]
      rfl
  | replacement text =>
    exact append_onto { c with pending := (pairReplacement c.pending text).2 } b _
  | pattern mode text =>
    exact append_onto { c with pending := (pairPattern c.pending mode text).2 } b _
  | filename path =>
    exact append_onto ({ c with filename := some (Path.ofText path) }.report .debug
      ("Output file name set to " ++ (Path.ofText path).shown)) b _
  | blank | comment | eval _ | insert _ | normalize _ | unknown => exact append_onto c b _

/-- A line is read behind what another builder has built as it is read on its own. -/
theorem line_onto (text : String) : (c.onto b).line text = (c.line text).onto b := by
  rw [line, line]
  split
  · exact append_onto c b _
  · exact command_onto c b _

theorem foldl_line_onto (lines : List String) :
    lines.foldl line (c.onto b) = (lines.foldl line c).onto b := by
  induction lines generalizing c with
  | nil => rfl
  | cons text lines ih => rw [List.foldl_cons, List.foldl_cons, line_onto, ih]

theorem closeAll_append (inner : Option Node) (os : List OpenBlock) (top under : List Node) :
    closeAll inner os (top ++ under) = closeAll inner os top ++ under := by
  induction os generalizing inner with
  | nil => rw [closeAll, closeAll, List.append_assoc]
  | cons o os ih => rw [closeAll, closeAll, ih]

/-- At the end what lies below comes first. -/
theorem finish_onto : (c.onto b).finish = b.top.reverse ++ c.finish := by
  have hclose : closeAll none (c.onto b).blocks (c.onto b).top =
      closeAll none c.blocks c.top ++ b.top := closeAll_append none c.blocks c.top b.top
  rw [finish, finish, hclose]
  show (if c.blocks.isEmpty then _ else _) = _ ++ (if c.blocks.isEmpty then _ else _)
  split
  · rw [List.reverse_append]
  · rw [← List.cons_append, List.reverse_append]
    rfl

end Onto

/-- A builder with no open block and no waiting pattern is one that goes on behind it. -/
theorem onto_of_settled {b : Builder} (hblocks : b.blocks = []) (hpending : b.pending = none) :
    b = ({} : Builder).onto b := by
  obtain ⟨top, blocks, pending, filename, reports⟩ := b
  subst hblocks hpending
  rfl

theorem finish_of_settled {b : Builder} (hblocks : b.blocks = []) : b.finish = b.top.reverse := by
  simp [finish, hblocks, closeAll]

/-! ## The path of the output -/

theorem filename_append (b : Builder) (n : Node) : (b.append n).filename = b.filename := by
  rw [append]
  split <;> rfl

/-- The path of the output after a command. -/
def filenameAfter (filename : Option Path) : CommandKind → Option Path
  | .filename path => some (Path.ofText path)
  | _ => filename

theorem filename_command (b : Builder) (d : Command) :
    (b.command d).filename = filenameAfter b.filename d.kind := by
  obtain ⟨kind, text, indent⟩ := d
  cases kind with
  | blockClose =>
    rw [command]
    cases hblocks : b.blocks with
    | nil =>
      simp only [closeBlock, hblocks]
      exact filename_append b _
    | cons o os =>
      simp only [closeBlock, hblocks]
      rw [filename_append, filename_append]
      rfl
  | blockOpen loop => rfl
  | blank | comment | replacement _ | pattern _ _ | filename _ | eval _ | insert _ | normalize _ |
    unknown => exact filename_append _ _

/-- The path of the output after a line. -/
def filenameAfterLine (filename : Option Path) (text : String) : Option Path :=
  (demandOf text).elim filename (filenameAfter filename)

theorem filename_line (b : Builder) (text : String) :
    (b.line text).filename = filenameAfterLine b.filename text := by
  rw [filenameAfterLine, demandOf]
  cases hc : commandOf text with
  | none =>
    rw [line_of_output hc]
    exact filename_append b _
  | some d =>
    rw [line_of_command hc]
    exact filename_command b d

theorem filename_foldl_line (lines : List String) (b : Builder) :
    (lines.foldl line b).filename = lines.foldl filenameAfterLine b.filename := by
  induction lines generalizing b with
  | nil => rfl
  | cons text lines ih => rw [List.foldl_cons, List.foldl_cons, ih, filename_line]

theorem filenameAfterLine_eq (filename : Option Path) (text : String) :
    filenameAfterLine filename text = (filenameAfterLine none text).or filename := by
  rw [filenameAfterLine, filenameAfterLine]
  cases demandOf text with
  | none => rfl
  | some k => cases k <;> rfl

/-- The last line that gives a path tells it; what was there before only counts where no line gives
one. -/
theorem foldl_filenameAfterLine (lines : List String) (filename : Option Path) :
    lines.foldl filenameAfterLine filename =
      (lines.foldl filenameAfterLine none).or filename := by
  induction lines generalizing filename with
  | nil => rfl
  | cons text lines ih =>
    rw [List.foldl_cons, List.foldl_cons, ih, ih (filenameAfterLine none text),
      filenameAfterLine_eq filename, Option.or_assoc]

end Builder

namespace Template

theorem parse_root (lines : List String) :
    (Template.parse lines).root = .list "<root>" (lines.foldl Builder.line {}).finish :=
  congrArg (Node.list "<root>") (Builder.finish_dropPending (lines.foldl Builder.line {}))

theorem parse_filename (lines : List String) :
    (Template.parse lines).filename = (lines.foldl Builder.line {}).filename := by
  show (lines.foldl Builder.line {}).dropPending.filename = _
  rw [Builder.dropPending]
  split <;> rfl

/-- The tree of a template without open blocks that is followed by another has the nodes of both. -/
theorem root_append {A : List String} (hblocks : (A.foldl Builder.line {}).blocks = [])
    (hpending : (A.foldl Builder.line {}).pending = none) (B : List String) :
    (Template.parse (A ++ B)).root = .list "<root>"
      ((Template.parse A).root.children ++ (Template.parse B).root.children) := by
  rw [parse_root, parse_root, parse_root, List.foldl_append,
    Node.children, Node.children, Builder.finish_of_settled hblocks, ← Builder.finish_onto,
    ← Builder.foldl_line_onto, ← Builder.onto_of_settled hblocks hpending]

/-- The path of the output is the one that the second template gives, if it gives one. -/
theorem filename_append (A B : List String) :
    (Template.parse (A ++ B)).filename =
      (Template.parse B).filename.or (Template.parse A).filename := by
  rw [parse_filename, parse_filename, parse_filename, List.foldl_append,
    Builder.filename_foldl_line, Builder.foldl_filenameAfterLine,
    ← Builder.filename_foldl_line B {}]

end Template

/-! ## Rendering -/

/-- A session in which some lines have been handed out before. -/
def Session.behind (before : Array Line) (s : Session) : Session :=
  { s with lines := before ++ s.lines }

/-- Rendering to which the lines handed out before it do not matter. -/
def Steady {α : Type} (a : Render α) : Prop :=
  ∀ (before : Array Line) (s : Session), a (s.behind before) = leftIn (Session.behind before) (a s)

/-- A session in which some lines have been handed out and some reports made before. -/
def Session.since (lines : Array Line) (reports : List Report) (s : Session) : Session :=
  { s with lines := lines ++ s.lines, reports := s.reports ++ reports }

/-- Rendering to which neither the lines handed out before it matter nor the reports made before
it. -/
def Impartial {α : Type} (a : Render α) : Prop :=
  ∀ (lines : Array Line) (reports : List Report) (s : Session),
    a (s.since lines reports) = leftIn (Session.since lines reports) (a s)

namespace Impartial

variable {α β : Type}

theorem pure (x : α) : Impartial (pure x) := fun _ _ _ => rfl

theorem bind {a : Render α} {k : α → Render β} (ha : Impartial a) (hk : ∀ x, Impartial (k x)) :
    Impartial (a >>= k) := by
  intro lines reports s
  have hfirst := ha lines reports s
  cases hrun : a s with
  | ok x t =>
    rw [hrun] at hfirst
    rw [bind_of_ok hfirst, bind_of_ok hrun, hk x lines reports t]
  | error h t =>
    rw [hrun] at hfirst
    rw [bind_of_error hfirst, bind_of_error hrun]
    rfl

theorem act (a : Act α) : Impartial (act a) := by
  intro lines reports s
  cases h : a s.machine with
  | ok v m => rw [act_of_ok h, act_of_ok (s := s.since lines reports) h]; rfl
  | error f m => rw [act_of_error h, act_of_error (s := s.since lines reports) h]; rfl

theorem attempt (a : Act α) : Impartial (attempt a) := by
  intro lines reports s
  cases h : a s.machine with
  | ok v m => rw [attempt_of_ok h, attempt_of_ok (s := s.since lines reports) h]; rfl
  | error f m => rw [attempt_of_error h, attempt_of_error (s := s.since lines reports) h]; rfl

theorem stepwise : Stepwise @Impartial where
  pure := pure
  bind := bind
  act := act
  attempt := attempt
  currentScope := fun _ _ _ => rfl
  modifyScope _ := fun _ _ _ => rfl
  report _ _ _ := fun _ _ _ => rfl

theorem emit (text : String) : Impartial (emit text) := by
  intro lines reports s
  have hhanded : handed text (s.since lines reports) = (handed text s).since lines reports := by
    simp [handed, Session.since]
  have hwanted : (s.since lines reports).wanted = s.wanted := rfl
  rw [emit_apply, emit_apply, hhanded, hwanted]
  split <;> rfl

theorem leaving {body : Render α} (hbody : Impartial body) :
    Impartial (ensuring body Scope.leave) := by
  intro lines reports s
  rw [ensuring_apply, ensuring_apply, hbody lines reports s]
  cases body s <;> rfl

/-- Collecting lays the lines before it aside. -/
theorem collecting {body : Render Unit} (hbody : Impartial body) : Impartial (collecting body) := by
  intro lines reports s
  have hapart : body (apart (s.since lines reports)) =
      leftIn (Session.since #[] reports) (body (apart s)) := hbody #[] reports (apart s)
  cases hrun : body (apart s) with
  | ok x t =>
    rw [hrun] at hapart
    have hlines : (t.since #[] reports).lines = t.lines := Array.empty_append
    rw [collecting_of_ok hrun, collecting_of_ok (s := s.since lines reports) hapart, hlines]
    rfl
  | error h t =>
    rw [hrun] at hapart
    rw [collecting_of_error hrun, collecting_of_error (s := s.since lines reports) hapart]
    rfl

theorem compositional (e : Evaluator) : Compositional e @Impartial where
  pure := pure
  bind := bind
  endless := fun _ _ _ => rfl
  act := act
  attempt := attempt
  currentScope := stepwise.currentScope
  report := stepwise.report
  recordError := stepwise.recordError
  emit := emit
  filterLine := stepwise.filterLine e
  executeNode := stepwise.executeNode e
  perform := stepwise.perform
  nested name v hbody := bind (stepwise.enterPass name v) fun _ => leaving hbody
  collecting := collecting

theorem steady {a : Render α} (ha : Impartial a) : Steady a := by
  intro before s
  have hsince (t : Session) : t.since before [] = t.behind before := by
    rw [Session.since, Session.behind, List.append_nil]
  have hrun := ha before [] s
  rw [hsince] at hrun
  rw [hrun]
  cases a s with
  | ok x t => exact congrArg _ (hsince t)
  | error h t => exact congrArg _ (hsince t)

end Impartial

namespace Node

variable {e : Evaluator} {limit : Nat}

/-- Nodes are rendered one after the other. -/
theorem renderAll_append (ns ms : List Node) :
    renderAll e limit (ns ++ ms) = renderAll e limit ns >>= fun _ => renderAll e limit ms := by
  funext s
  induction ns generalizing s with
  | nil => rfl
  | cons n ns ih =>
    rw [List.cons_append, renderAll, renderAll]
    cases hrun : n.render e limit s with
    | ok x t => rw [bind_of_ok hrun, ih, bind_congr_left (bind_of_ok hrun)]
    | error h t => rw [bind_of_error hrun, bind_of_error (bind_of_error hrun)]

/-- A reader of all lines does not close rendering. -/
theorem renderAll_ne_closed (ns : List Node) (s t : Session) :
    renderAll e limit ns (apart s) ≠ .error .closed t := by
  obtain ⟨new, hnew⟩ := (Lazy.compositional e).renderAll limit ns (apart s) rfl
  exact hnew.open_ t

/-- Two trees side by side give the lines of the first and then those of the second, rendered in the
session that the first has left. -/
theorem runWithin_append {ns ms : List Node} {d d' d'' : String} {s : Session}
    (hends : ((list d ns).runWithin limit e none s).2.1 = none) :
    (list d'' (ns ++ ms)).runWithin limit e none s =
      (((list d ns).runWithin limit e none s).1 ++
          ((list d' ms).runWithin limit e none ((list d ns).runWithin limit e none s).2.2).1,
        ((list d' ms).runWithin limit e none ((list d ns).runWithin limit e none s).2.2).2) := by
  cases hrun : renderAll e limit ns (apart s) with
  | error h t =>
    have hfirst : (list d ns).runWithin limit e none s = (t.lines, some h, apart t) := by
      refine runWithin_of_error none nofun ?_ hrun
      rintro rfl
      exact renderAll_ne_closed ns s t hrun
    rw [hfirst] at hends
    exact absurd hends nofun
  | ok x t =>
    have hfirst : (list d ns).runWithin limit e none s = (t.lines, none, apart t) :=
      runWithin_of_ok none nofun hrun
    have hwanted : t.wanted = none := by
      obtain ⟨new, hnew⟩ := (Lazy.compositional e).renderAll limit ns (apart s) rfl
      have hwanted := hnew.wanted
      rwa [hrun] at hwanted
    have hbehind : t = (apart t).behind t.lines := by
      simp [Session.behind, apart, ← hwanted]
    have hrest := ((Impartial.compositional e).renderAll limit ms).steady t.lines (apart t)
    rw [← hbehind] at hrest
    have hwhole : renderAll e limit (ns ++ ms) (apart s) =
        leftIn (Session.behind t.lines) (renderAll e limit ms (apart t)) := by
      rw [renderAll_append, bind_of_ok hrun, hrest]
    rw [hfirst]
    cases hsecond : renderAll e limit ms (apart t) with
    | ok y u =>
      rw [hsecond] at hwhole
      have hall : (list d'' (ns ++ ms)).runWithin limit e none s =
          ((u.behind t.lines).lines, none, apart (u.behind t.lines)) :=
        runWithin_of_ok none nofun hwhole
      have hlast : (list d' ms).runWithin limit e none (apart t) = (u.lines, none, apart u) :=
        runWithin_of_ok none nofun hsecond
      rw [hall, hlast]
      rfl
    | error h u =>
      have hclosed : h ≠ .closed := by
        rintro rfl
        exact renderAll_ne_closed ms t u hsecond
      rw [hsecond] at hwhole
      have hall : (list d'' (ns ++ ms)).runWithin limit e none s =
          ((u.behind t.lines).lines, some h, apart (u.behind t.lines)) :=
        runWithin_of_error none nofun hclosed hwhole
      have hlast : (list d' ms).runWithin limit e none (apart t) = (u.lines, some h, apart u) :=
        runWithin_of_error none nofun hclosed hsecond
      rw [hall, hlast]
      rfl

end Node

/-! ## One template behind the other -/

/-- **Templates compose.** (1) The path of the output of two templates one behind the other is the
one that the second gives, or else the one that the first gives. (2) Where the first leaves no block
open and no pattern waiting, and nothing ends its rendering early, the whole gives the lines of the
first and then those of the second, rendered in the session that the first has left, and leaves the
same session. -/
theorem Template.parse_append :
    (∀ A B : List String, (Template.parse (A ++ B)).filename =
      (Template.parse B).filename.or (Template.parse A).filename) ∧
    ∀ (A B : List String) (e : Evaluator) (limit : Nat) (s : Session),
      (A.foldl Builder.line {}).blocks = [] → (A.foldl Builder.line {}).pending = none →
      ((Template.parse A).root.runWithin limit e none s).2.1 = none →
        let first := (Template.parse A).root.runWithin limit e none s
        let second := (Template.parse B).root.runWithin limit e none first.2.2
        (Template.parse (A ++ B)).root.runWithin limit e none s =
          (first.1 ++ second.1, second.2) := by
  refine ⟨Template.filename_append, fun A B e limit s hblocks hpending hends => ?_⟩
  rw [Template.root_append hblocks hpending, Template.parse_root A, Template.parse_root B] at *
  exact Node.runWithin_append hends

/-- A template that closes a block that is not open gives its rule to the template behind it. -/
theorem Template.parse_append_rule :
    let A := ["x", "///>>>", "///filename a", "///=\x60x\x60", "///->\x60z\x60"]
    let s : Session := { scope := Scope.ofLayer [] }
    let first := (Template.parse A).root.runWithin 1 .standard none s
    let second := (Template.parse ["x"]).root.runWithin 1 .standard none first.2.2
    (A.foldl Builder.line {}).blocks = [] ∧ (A.foldl Builder.line {}).pending = none ∧
      first.2.1 = none ∧
      (Template.parse (A ++ ["x"])).root.runWithin 1 .standard none s =
        (first.1 ++ second.1, second.2) ∧
      first.1 = #[⟨"x", 0⟩] ∧ second.1 = #[⟨"z", 1⟩] := by
  have hblocks : (["x", "///>>>", "///filename a", "///=\x60x\x60", "///->\x60z\x60"].foldl
      Builder.line {}).blocks = [] := List.isEmpty_iff.mp (by decide +kernel)
  have hpending : (["x", "///>>>", "///filename a", "///=\x60x\x60", "///->\x60z\x60"].foldl
      Builder.line {}).pending = none := by decide +kernel
  have hends : ((Template.parse ["x", "///>>>", "///filename a", "///=\x60x\x60",
      "///->\x60z\x60"]).root.runWithin 1 .standard none
        { scope := Scope.ofLayer [] }).2.1 = none := by decide +kernel
  exact ⟨hblocks, hpending, hends, Template.parse_append.2 _ _ _ _ _ hblocks hpending hends,
    by decide +kernel, by decide +kernel⟩

end Stencil
