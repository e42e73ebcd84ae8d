import Stencil.Proofs.Alike
/-!
# Stencil.Proofs.Erasure -- lines that can be left out

A blank command, a comment and a command that gives the path of the output leave a node that does
nothing. A template without some of these lines builds a tree without their nodes, at whatever depth
they stood and whatever pattern waited there, and trees that only differ in nodes that do nothing
are rendered alike. The path of the output is all that the lines left out can change.
-/

namespace Stencil

open Stencil.Expr Render

/-! ## Silent lines -/

/-- Commands whose nodes do nothing when they are rendered, wherever they stand. -/
def CommandKind.silent : CommandKind → Bool
  | .blank | .comment | .filename _ => true
  | _ => false

/-- Lines of a template whose nodes do nothing. -/
def isSilent (text : String) : Bool := (demandOf text).any CommandKind.silent

/-- The path of the output that a line gives. -/
def pathOf (text : String) : Option Path :=
  match demandOf text with
  | some (.filename path) => some (Path.ofText path)
  | _ => none

/-- Lines of which some silent ones have been left out. -/
inductive Thinned : List String → List String → Prop where
  | nil : Thinned [] []
  | keep {lines kept : List String} (text : String) :
      Thinned lines kept → Thinned (text :: lines) (text :: kept)
  | drop {lines kept : List String} {text : String} :
      isSilent text = true → Thinned lines kept → Thinned (text :: lines) kept

/-! ## Rendering -/

namespace Node

theorem renderAll_block (e : Evaluator) (limit : Nat) (loop : LoopHeader) (ns : List Node) :
    renderAll e limit [block loop ns] =
      blockNode e limit loop (renderAll e limit ns) >>= fun _ => pure () := rfl

/-- Nodes that are rendered in the same way. -/
def SameRendering (e : Evaluator) (limit : Nat) (ns ms : List Node) : Prop :=
  renderAll e limit ms = renderAll e limit ns

namespace SameRendering

variable (e : Evaluator) (limit : Nat)

theorem congruence : Congruence (SameRendering e limit) where
  refl _ := rfl
  append {ns ns' ms ms'} hns hms := by
    rw [SameRendering, renderAll_append, renderAll_append, hns, hms]
  block {ns ns'} loop h := by
    rw [SameRendering, renderAll_block, renderAll_block, h]

/-- A node without actions can be left out. -/
theorem unused (description : String) :
    SameRendering e limit [.operation description none] [] := by
  funext s
  exact (bind_of_ok (render_unused description)).symm

end SameRendering

end Node

/-! ## Building -/

namespace Builder

/-- A silent line adds a node without actions, and leaves the waiting pattern. -/
theorem line_of_silent {text : String} (h : isSilent text = true) (b : Builder) :
    ∃ (description : String) (b' : Builder),
      b.line text = b'.append (.operation description none) ∧
        b'.top = b.top ∧ b'.blocks = b.blocks ∧ b'.pending = b.pending := by
  rw [isSilent, demandOf] at h
  cases hc : commandOf text with
  | none => simp [hc] at h
  | some d =>
    obtain ⟨kind, ctext, indent⟩ := d
    simp only [hc, Option.map_some, Option.any_some] at h
    rw [line_of_command hc]
    cases kind with
    | blank => exact ⟨_, b, rfl, rfl, rfl, rfl⟩
    | comment => exact ⟨_, b, rfl, rfl, rfl, rfl⟩
    | filename path => exact ⟨_, _, rfl, rfl, rfl, rfl⟩
    | _ => cases h

open Node

variable {e : Evaluator} {limit : Nat} {lines kept : List String}

/-- Silent lines that are left out do not change the place in the template. -/
theorem alike_of_thinned (h : Thinned lines kept) {b c : Builder}
    (hb : Alike (SameRendering e limit) b c) :
    Alike (SameRendering e limit) (lines.foldl line b) (kept.foldl line c) := by
  have hR := SameRendering.congruence e limit
  induction h generalizing b c with
  | nil => exact hb
  | keep text _ ih =>
    rw [List.foldl_cons, List.foldl_cons]
    exact ih (hb.line hR text)
  | drop hsilent _ ih =>
    rw [List.foldl_cons]
    refine ih ?_
    obtain ⟨description, b', hline, htop, hblocks, hpending⟩ := line_of_silent hsilent b
    have hb' : Alike (SameRendering e limit) b' c :=
      ⟨htop ▸ hb.top, hblocks ▸ hb.blocks, hpending ▸ hb.pending⟩
    have hdrop := hb'.appendAll hR (SameRendering.unused e limit description)
    rwa [appendAll_singleton, appendAll_nil, ← hline] at hdrop

/-- The path of the output is the last one that the lines give. -/
theorem foldl_filenameAfterLine_eq (lines : List String) :
    lines.foldl filenameAfterLine none = (lines.filterMap pathOf).getLast? := by
  induction lines with
  | nil => rfl
  | cons text lines ih =>
    have hpath : filenameAfterLine none text = pathOf text := by
      rw [filenameAfterLine, pathOf]
      cases demandOf text with
      | none => rfl
      | some k => cases k <;> rfl
    rw [List.foldl_cons, foldl_filenameAfterLine, ih, hpath, List.filterMap_cons]
    cases pathOf text with
    | none => rw [Option.or_none]
    | some path => rw [List.getLast?_cons, Option.or_some]

end Builder

namespace Template

variable {lines kept : List String}

/-- **Silent lines can be left out.** A template without some of its blank commands, comments and
commands that give a path, wherever these stand, is rendered exactly like the whole of it: with the
same lines and the same end, in every evaluator, for every number of passes and of lines that are
wanted, from every session and into the same one. Only the path of the output may differ; it is the
last one that the lines kept give, whether or not they are ever rendered. -/
theorem run_of_thinned (h : Thinned lines kept) :
    (∀ (e : Evaluator) (limit : Nat) (take : Option Nat) (s : Session),
      (Template.parse kept).root.runWithin limit e take s =
        (Template.parse lines).root.runWithin limit e take s) ∧
    (Template.parse kept).filename = (kept.filterMap pathOf).getLast? := by
  refine ⟨fun e limit take s => ?_, ?_⟩
  · have hR := Node.SameRendering.congruence e limit
    have hnodes := (Builder.alike_of_thinned h (.refl hR {})).finish hR
    have hroot : (Template.parse kept).root.render e limit =
        (Template.parse lines).root.render e limit := by
      rw [parse_root, parse_root]
      exact hnodes
    rw [Node.runWithin, Node.runWithin, hroot]
  · rw [parse_filename, Builder.filename_foldl_line]
    exact Builder.foldl_filenameAfterLine_eq kept

/-- A comment between a pattern and its replacement, a blank command in a collapsing block, and one
of two paths. -/
theorem run_of_thinned_note :
    let lines := ["///filename a", "///=\x60x\x60", "///-- note", "///->\x60z\x60", "///<<</",
      "///", "x", "///filename b", "///>>>"]
    let kept := ["///=\x60x\x60", "///->\x60z\x60", "///<<</", "x", "///filename b", "///>>>"]
    let s : Session := { scope := Scope.ofLayer [] }
    Thinned lines kept ∧
      (Template.parse kept).root.runWithin 1 .standard none s =
        (Template.parse lines).root.runWithin 1 .standard none s ∧
      ((Template.parse kept).root.runWithin 1 .standard none s).1 = #[⟨"z", 0⟩] ∧
      (Template.parse kept).filename = some (Path.ofText "b") := by
  have hthinned : Thinned ["///filename a", "///=\x60x\x60", "///-- note", "///->\x60z\x60",
      "///<<</", "///", "x", "///filename b", "///>>>"]
      ["///=\x60x\x60", "///->\x60z\x60", "///<<</", "x", "///filename b", "///>>>"] :=
    .drop (by decide +kernel) (.keep _ (.drop (by decide +kernel) (.keep _ (.keep _
      (.drop (by decide +kernel) (.keep _ (.keep _ (.keep _ .nil))))))))
  exact ⟨hthinned, (run_of_thinned hthinned).1 _ _ _ _, by decide +kernel,
    (run_of_thinned hthinned).2.trans (by decide +kernel)⟩

end Template

end Stencil
