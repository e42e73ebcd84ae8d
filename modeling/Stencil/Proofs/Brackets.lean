import Stencil.Proofs.Erasure
import Stencil.Proofs.Padding
/-!
# Stencil.Proofs.Brackets -- blocks around what needs none

A part of a template that neither writes to the level around it nor closes a block around it can be
put into a block of its own. The builder reads such a part as it reads it elsewhere, and puts its
nodes where it stands; the block around them opens a level that holds nothing, so they are rendered
as they would be without it. Where rendering ends well, or is closed, or is endless, nothing
differs. A failure at the entry of a pass leaves the level of the pass open; in a block of their own
it is the level of the pass that is closed then, and the empty level of the block that stays.
-/

namespace Stencil

open Stencil.Expr Render

/-! ## Parts that can be put into a block -/

/-- Commands that reach what is around a part of a template when they stand outside of its blocks:
they close a block, or write to the innermost level. -/
def CommandKind.reachesOut : CommandKind → Bool
  | .blockClose | .replacement _ | .normalize _ | .eval _ => true
  | _ => false

/-- Lines that close all blocks they open, when `count` of them are open before, and of which none
reaches what is around them. -/
def secludedFrom : Nat → List String → Bool
  | count, [] => count == 0
  | count, text :: texts =>
    (count != 0 || !(demandOf text).any CommandKind.reachesOut) &&
      secludedFrom (counted count text) texts

/-- Lines that can be put into a block of their own: their blocks are balanced, and outside of these
stand no replacements, no statements and nothing that normalizes. -/
def secluded (lines : List String) : Bool := secludedFrom 0 lines

/-! ## Building -/

namespace Builder

/-- A builder that goes on where another stands: its nodes go to the innermost block that is open
there, and its blocks are opened inside of that. -/
def above (c b : Builder) : Builder :=
  { b.appendAll c.top.reverse with
    blocks := c.blocks ++ (b.appendAll c.top.reverse).blocks
    pending := c.pending
    filename := c.filename.or b.filename
    reports := c.reports ++ b.reports }

section Above

variable (c b : Builder)

theorem append_above (n : Node) : (c.above b).append n = (c.append n).above b := by
  obtain ⟨top, _ | ⟨o, os⟩, pending, filename, reports⟩ := c
  · obtain ⟨top', _ | ⟨p, ps⟩, pending', filename', reports'⟩ := b
    · simp [above, append, appendAll]
    · simp [above, append, appendAll]
  · rfl

theorem command_above (d : Command) (h : d.kind = .blockClose → c.blocks ≠ []) :
    (c.above b).command d = (c.command d).above b := by
  obtain ⟨kind, text, indent⟩ := d
  cases kind with
  | blockOpen loop => rfl
  | blockClose =>
    obtain ⟨top, _ | ⟨o, os⟩, pending, filename, reports⟩ := c
    · exact absurd rfl (h rfl)
    · show (({ top, blocks := os, pending, filename, reports : Builder }.above b).append
        (blockNode o)).append _ = _
      rw [append_above, append_above]
      rfl
  | replacement text =>
    exact append_above { c with pending := (pairReplacement c.pending text).2 } b _
  | pattern mode text =>
    exact append_above { c with pending := (pairPattern c.pending mode text).2 } b _
  | filename path =>
    exact append_above ({ c with filename := some (Path.ofText path) }.report .debug
      ("Output file name set to " ++ (Path.ofText path).shown)) b _
  | blank | comment | eval _ | insert _ | normalize _ | unknown => exact append_above c b _

/-- A line that closes no block around the part is read as it is read elsewhere. -/
theorem line_above (text : String) (h : demandOf text = some .blockClose → c.blocks ≠ []) :
    (c.above b).line text = (c.line text).above b := by
  cases hc : commandOf text with
  | none =>
    rw [line_of_output hc, line_of_output hc]
    exact append_above c b _
  | some d =>
    rw [line_of_command hc, line_of_command hc]
    exact command_above c b d fun hd => h (by rw [demandOf, hc, Option.map_some, hd])

end Above

theorem length_blocks_line (c : Builder) (text : String) :
    (c.line text).blocks.length = counted c.blocks.length text := by
  rw [← length_heads, (c.reads_line text).reading, Reading.length_heads_afterLine, length_heads]

/-- Only bystanders stand outside of the blocks. -/
def OnlyBystanders (c : Builder) : Prop := ∀ n ∈ c.top, n.bystander = true

section Bystanders

variable {c : Builder}

theorem OnlyBystanders.append {n : Node} (h : c.OnlyBystanders)
    (hn : c.blocks = [] → n.bystander = true) : (c.append n).OnlyBystanders := by
  obtain ⟨top, _ | ⟨o, os⟩, pending, filename, reports⟩ := c
  · intro m hm
    rcases List.mem_cons.mp hm with rfl | hm
    · exact hn rfl
    · exact h m hm
  · exact h

theorem OnlyBystanders.command {d : Command} (h : c.OnlyBystanders)
    (hd : c.blocks = [] → d.kind.reachesOut = false) : (c.command d).OnlyBystanders := by
  obtain ⟨kind, text, indent⟩ := d
  cases kind with
  | blockOpen loop => exact h
  | blockClose =>
    obtain ⟨top, _ | ⟨o, os⟩, pending, filename, reports⟩ := c
    · cases hd rfl
    · have hclosed : (({ top, blocks := os, pending, filename, reports : Builder }).append
          (blockNode o)).OnlyBystanders := append (n := blockNode o) h fun _ => rfl
      exact hclosed.append (n := .operation _ none) fun _ => rfl
  | replacement text =>
    exact append (c := { c with pending := (pairReplacement c.pending text).2 }) h
      fun hblocks => nomatch hd hblocks
  | pattern mode text =>
    have hnode : (pairPattern c.pending mode text).1.bystander = true := by
      cases c.pending <;> rfl
    exact append (c := { c with pending := (pairPattern c.pending mode text).2 }) h fun _ => hnode
  | eval text => exact h.append fun hblocks => nomatch hd hblocks
  | normalize options => exact h.append fun hblocks => nomatch hd hblocks
  | filename path =>
    exact append (c := { c with filename := some (Path.ofText path) }.report .debug
      ("Output file name set to " ++ (Path.ofText path).shown))
      (n := .operation text none) h fun _ => rfl
  | blank | comment | insert _ | unknown => exact h.append fun _ => rfl

theorem OnlyBystanders.line {text : String} (h : c.OnlyBystanders)
    (hd : c.blocks = [] → (demandOf text).any CommandKind.reachesOut = false) :
    (c.line text).OnlyBystanders := by
  cases hc : commandOf text with
  | none =>
    rw [line_of_output hc]
    exact h.append fun _ => rfl
  | some d =>
    rw [line_of_command hc]
    exact h.command fun hblocks => by simpa [demandOf, hc] using hd hblocks

end Bystanders

/-- A part that can be put into a block is read on its own, wherever it stands. It gives bystanders,
and leaves no block open. -/
theorem foldl_line_secluded {lines : List String} {c : Builder} (h : c.OnlyBystanders)
    (hlines : secludedFrom c.blocks.length lines = true) :
    (∀ b : Builder, lines.foldl line (c.above b) = (lines.foldl line c).above b) ∧
      (lines.foldl line c).blocks = [] ∧ (lines.foldl line c).OnlyBystanders := by
  induction lines generalizing c with
  | nil =>
    have hblocks : c.blocks = [] := by
      simpa [secludedFrom] using hlines
    exact ⟨fun _ => rfl, hblocks, h⟩
  | cons text lines ih =>
    rw [secludedFrom, Bool.and_eq_true, ← length_blocks_line] at hlines
    obtain ⟨hinside, hrest⟩ := hlines
    have hreach : c.blocks = [] → (demandOf text).any CommandKind.reachesOut = false := by
      intro hblocks
      simpa [hblocks] using hinside
    have hclose : demandOf text = some .blockClose → c.blocks ≠ [] := by
      intro hdemand hblocks
      have := hreach hblocks
      rw [hdemand] at this
      cases this
    obtain ⟨habove, hblocks, hbystanders⟩ := ih (h.line hreach) hrest
    rw [List.foldl_cons]
    refine ⟨fun b => ?_, hblocks, hbystanders⟩
    rw [List.foldl_cons, line_above c b text hclose, habove]

theorem above_of_closed {c : Builder} (h : c.blocks = []) (b : Builder) :
    c.above b = appendAll { b with
      pending := c.pending
      filename := c.filename.or b.filename
      reports := c.reports ++ b.reports } c.top.reverse := by
  obtain ⟨top, blocks, pending, filename, reports⟩ := c
  obtain ⟨top', _ | ⟨o, os⟩, pending', filename', reports'⟩ := b
  · cases h
    rfl
  · cases h
    rfl

theorem eq_above (b : Builder) : b = ({ pending := b.pending } : Builder).above b := by
  rw [above_of_closed rfl]
  exact (appendAll_nil b).symm

theorem line_opening (b : Builder) : b.line "///<<<" = b.openBlock {} := by
  have hcommand : commandOf "///<<<" = some ⟨.blockOpen {}, "<<<", ""⟩ := by decide +kernel
  rw [line_of_command hcommand]
  rfl

theorem line_closing {b : Builder} {o : OpenBlock} {os : List OpenBlock} (h : b.blocks = o :: os) :
    b.line "///>>>" = appendAll { b with blocks := os }
      [blockNode o, .operation ("pop " ++ (blockNode o).describe) none] := by
  have hcommand : commandOf "///>>>" = some ⟨.blockClose, ">>>", ""⟩ := by decide +kernel
  obtain ⟨top, blocks, pending, filename, reports⟩ := b
  cases h
  rw [line_of_command hcommand]
  cases os <;> rfl

/-- With a block of its own around it, a part goes to the same place. -/
theorem alike_bracketed {R : List Node → List Node → Prop} (hR : Congruence R)
    (hbracket : ∀ ns, (∀ n ∈ ns, n.bystander = true) → ∀ description : String,
      R ns [.block {} ns, .operation description none])
    {lines : List String} (hlines : secluded lines = true) (b : Builder) :
    Alike R (lines.foldl line b) ((lines.foldl line (b.line "///<<<")).line "///>>>") := by
  have hstart : ({ pending := b.pending } : Builder).OnlyBystanders := nofun
  obtain ⟨habove, hblocks, hbystanders⟩ := foldl_line_secluded hstart hlines
  have hplain := habove b
  have hinside := habove (b.openBlock {})
  rw [← eq_above] at hplain
  have hopened : b.openBlock {} = ({ pending := b.pending } : Builder).above (b.openBlock {}) :=
    eq_above (b.openBlock {})
  rw [← hopened] at hinside
  generalize lines.foldl line { pending := b.pending } = c at *
  have hnode : blockNode ⟨{}, c.top.reverse.reverse ++ []⟩ = .block {} c.top.reverse := by
    simp [blockNode]
  have hbystanders' : ∀ n ∈ c.top.reverse, n.bystander = true := fun n hn =>
    hbystanders n (List.mem_reverse.mp hn)
  rw [line_opening, hplain, hinside, above_of_closed hblocks, above_of_closed hblocks,
    line_closing (o := ⟨{}, c.top.reverse.reverse ++ []⟩) rfl, hnode]
  exact ((Alike.refl hR b).withRest _ _ _ _ _).appendAll hR (hbracket _ hbystanders' _)

end Builder

/-! ## Rendering -/

/-- Rendering from `s` ends in the same way, but for an innermost level that a failure has left
open: that level is empty in the second case. -/
inductive SameButOpen (s : Session) :
    EStateM.Result Halt Session Unit → EStateM.Result Halt Session Unit → Prop
  | same (r : EStateM.Result Halt Session Unit) : SameButOpen s r r
  | leftOpen (f : Failure) {t : Session} : t.scope.depth = s.scope.depth + 1 →
    SameButOpen s (.error (.failed f) t)
      (.error (.failed f) { t with scope := t.scope.leave.enter })

namespace Render

variable {e : Evaluator} {limit : Nat} {loop : LoopHeader} {body body' : Render Unit}

theorem pass_congr (h : ∀ name v, nested name v body' = nested name v body)
    (hcollecting : ∀ name v, nested name v (collecting body') = nested name v (collecting body))
    (previous : Option (List String)) (v : Value) :
    pass loop body' previous v = pass loop body previous v := by
  rw [pass, pass, h, hcollecting]

theorem passes_congr (h : ∀ name v, nested name v body' = nested name v body)
    (hcollecting : ∀ name v, nested name v (collecting body') = nested name v (collecting body))
    (r : Ref) (fuel : Nat) (previous : Option (List String)) :
    passes loop r body' fuel previous = passes loop r body fuel previous := by
  induction fuel generalizing previous with
  | zero => rfl
  | succ fuel ih => simp only [passes, pass_congr h hcollecting, ih]

/-- Of its body a block only shows what becomes of it in a level of its own. -/
theorem blockNode_congr (h : ∀ name v, nested name v body' = nested name v body)
    (hcollecting : ∀ name v, nested name v (collecting body') = nested name v (collecting body)) :
    blockNode e limit loop body' = blockNode e limit loop body := by
  simp only [blockNode_eq, h, passes_congr h hcollecting]

end Render

namespace Node

variable {e : Evaluator} {limit : Nat}

/-- Nodes that are rendered in the same way, but for a level that a failure leaves open. -/
def SameInBlocks (e : Evaluator) (limit : Nat) (ns ms : List Node) : Prop :=
  ∀ s, SameButOpen s (renderAll e limit ns s) (renderAll e limit ms s)

namespace SameInBlocks

variable {ns ms : List Node}

/-- What is left open is closed at the end of a pass. -/
theorem ensuring_eq (h : SameInBlocks e limit ns ms) :
    ensuring (renderAll e limit ms) Scope.leave = ensuring (renderAll e limit ns) Scope.leave := by
  funext s
  have hs := h s
  rw [ensuring_apply, ensuring_apply]
  generalize renderAll e limit ns s = r at hs
  generalize renderAll e limit ms s = r' at hs
  cases hs with
  | same r => rfl
  | leftOpen f _ => rfl

theorem nested_eq (h : SameInBlocks e limit ns ms) (name : Option String) (v : Value) :
    nested name v (renderAll e limit ms) = nested name v (renderAll e limit ns) := by
  rw [nested, nested, h.ensuring_eq]

theorem nested_collecting_eq (h : SameInBlocks e limit ns ms) (name : Option String) (v : Value) :
    nested name v (collecting (renderAll e limit ms)) =
      nested name v (collecting (renderAll e limit ns)) := by
  have hcollecting : ensuring (collecting (renderAll e limit ms)) Scope.leave =
      ensuring (collecting (renderAll e limit ns)) Scope.leave := by
    funext s
    have hs := h (apart s)
    generalize hrun : renderAll e limit ns (apart s) = r at hs
    generalize hrun' : renderAll e limit ms (apart s) = r' at hs
    cases hs with
    | same r =>
      cases r with
      | ok _ t =>
        rw [ensuring_of_ok (collecting_of_ok hrun), ensuring_of_ok (collecting_of_ok hrun')]
      | error q t =>
        rw [ensuring_of_error (collecting_of_error hrun),
          ensuring_of_error (collecting_of_error hrun')]
    | leftOpen f _ =>
      rw [ensuring_of_error (collecting_of_error hrun),
        ensuring_of_error (collecting_of_error hrun')]
      rfl
  rw [nested, nested, hcollecting]

/-- Rendering that ends well has closed all levels it has opened. -/
theorem depth_of_ok {s t : Session} (h : renderAll e limit ns s = .ok () t) :
    t.scope.depth = s.scope.depth :=
  congrArg List.length
    ((Carries.compositional e).renderAll limit ns s t (.inl ⟨(), h⟩)).enclosing

theorem congruence (e : Evaluator) (limit : Nat) : Congruence (SameInBlocks e limit) where
  refl _ := fun _ => .same _
  append {ns ns' ms ms'} hns hms := by
    intro s
    rw [renderAll_append, renderAll_append]
    have hfirst := hns s
    generalize hrun : renderAll e limit ns s = r at hfirst
    generalize hrun' : renderAll e limit ns' s = r' at hfirst
    cases hfirst with
    | same r =>
      cases r with
      | error q t =>
        rw [bind_of_error hrun, bind_of_error hrun']
        exact .same _
      | ok _ t =>
        rw [bind_of_ok hrun, bind_of_ok hrun']
        have hsecond := hms t
        generalize renderAll e limit ms t = u at hsecond
        generalize renderAll e limit ms' t = u' at hsecond
        cases hsecond with
        | same u => exact .same u
        | leftOpen f hdepth => exact .leftOpen f (by rw [hdepth, depth_of_ok hrun])
    | leftOpen f hdepth =>
      rw [bind_of_error hrun, bind_of_error hrun']
      exact .leftOpen f hdepth
  block {ns ns'} loop h := by
    intro s
    rw [renderAll_block, renderAll_block, blockNode_congr h.nested_eq h.nested_collecting_eq]
    exact .same _

/-- Bystanders are rendered in a block of their own as they are rendered without it. -/
theorem bracketed (he : e.ByName) (hns : ∀ n ∈ ns, n.bystander = true) (description : String) :
    SameInBlocks e limit ns [.block {} ns, .operation description none] := by
  intro s
  have hnote : renderAll e limit [.operation description none] = pure () :=
    (SameRendering.unused e limit description).symm
  have hnodes : renderAll e limit [.block {} ns, .operation description none] =
      nested none .none (renderAll e limit ns) >>= fun _ =>
        renderAll e limit [.operation description none] := rfl
  have hblock : renderAll e limit [.block {} ns, .operation description none] s =
      ensuring (renderAll e limit ns) Scope.leave { s with scope := s.scope.enter } := by
    rw [hnodes, hnote, bind_pure_unit, nested, bind_of_ok (enterPass_of_unnamed rfl .none s)]
  have hparallel := Parallel.renderAll he s.scope 0 limit hns s _ (.of_enter s.scope)
  rw [hblock]
  generalize hrun : renderAll e limit ns s = r at hparallel
  generalize hrun' : renderAll e limit ns { s with scope := s.scope.enter } = r' at hparallel
  cases hparallel with
  | ok x hc =>
    rw [ensuring_of_ok hrun', hc.eq_enter]
    exact .same _
  | error q hc =>
    rw [ensuring_of_error hrun', hc.eq_enter]
    exact .same _
  | leftOpen f hc =>
    rw [ensuring_of_error hrun', hc.leave.eq_enter]
    exact .leftOpen f hc.depth

end SameInBlocks

end Node

/-! ## Templates -/

namespace Template

/-- A path of the output that stands before or behind a line which gives none is told as without
the line. -/
theorem filename_bracketed (A S B : List String) :
    (Template.parse (A ++ "///<<<" :: (S ++ "///>>>" :: B))).filename =
      (Template.parse (A ++ (S ++ B))).filename := by
  have hopening : pathOf "///<<<" = none := by decide +kernel
  have hclosing : pathOf "///>>>" = none := by decide +kernel
  have hpath : ∀ lines, (Template.parse lines).filename = (lines.filterMap pathOf).getLast? := by
    intro lines
    rw [parse_filename, Builder.filename_foldl_line]
    exact Builder.foldl_filenameAfterLine_eq lines
  rw [hpath, hpath]
  simp only [List.filterMap_append, List.filterMap_cons, hopening, hclosing]

/-- How the run of a tree with a block around a part compares to the run of the tree without it,
both from `s`: the lines, the end, the errors and the machine are the same, and the whole session
is, but for an innermost level that a failure has left open and that is empty in the second run. -/
structure SameRun (s : Session) (run run' : Array Line × Option Halt × Session) : Prop where
  lines : run'.1 = run.1
  halt : run'.2.1 = run.2.1
  errors : run'.2.2.scope.errors = run.2.2.scope.errors
  machine : run'.2.2.machine = run.2.2.machine
  session : run'.2.2 = run.2.2 ∨
    (∃ f, run.2.1 = some (.failed f)) ∧ run.2.2.scope.depth = s.scope.depth + 1 ∧
      run'.2.2 = { run.2.2 with scope := run.2.2.scope.leave.enter }

theorem SameRun.refl (s : Session) (run : Array Line × Option Halt × Session) : SameRun s run run :=
  ⟨rfl, rfl, rfl, rfl, .inl rfl⟩

theorem sameRun_of_nodes {e : Evaluator} {limit : Nat} {ns ms : List Node}
    (h : Node.SameInBlocks e limit ns ms) (d : String) (take : Option Nat) (s : Session) :
    SameRun s ((Node.list d ns).runWithin limit e take s)
      ((Node.list d ms).runWithin limit e take s) := by
  by_cases htake : take = some 0
  · subst htake
    exact .refl s _
  have hs := h { s with lines := #[], wanted := take }
  generalize hrun : Node.renderAll e limit ns { s with lines := #[], wanted := take } = r at hs
  generalize hrun' : Node.renderAll e limit ms { s with lines := #[], wanted := take } = r' at hs
  cases hs with
  | same r =>
    have hsame : (Node.list d ms).runWithin limit e take s =
        (Node.list d ns).runWithin limit e take s := by
      have hrender : ∀ ns, (Node.list d ns).render e limit = Node.renderAll e limit ns :=
        fun _ => rfl
      rw [Node.runWithin, Node.runWithin, hrender, hrender, hrun, hrun']
    rw [hsame]
    exact .refl s _
  | @leftOpen f t hdepth =>
    have hplain : (Node.list d ns).runWithin limit e take s =
        (t.lines, some (.failed f), apart t) :=
      Node.runWithin_of_error (q := .failed f) take htake (by simp) hrun
    have hbracketed : (Node.list d ms).runWithin limit e take s =
        (t.lines, some (.failed f), apart { t with scope := t.scope.leave.enter }) :=
      Node.runWithin_of_error (n := .list d ms) (s := s) (q := .failed f) take htake (by simp) hrun'
    rw [hplain, hbracketed]
    exact ⟨rfl, rfl, t.scope.errors_leave, rfl, .inr ⟨⟨f, rfl⟩, hdepth, rfl⟩⟩

/-- **A block around a part changes nothing**, for an evaluator that sees bindings by the values of
names, where the blocks of the part are balanced and nothing outside of them writes to the level
around it. The lines that are handed out, the end of rendering, the errors and the machine are those
of the template without the block, and so is all of the session, unless a failure ends rendering and
leaves a level open: then this level may be empty. -/
theorem run_bracketed {e : Evaluator} (he : e.ByName) {S : List String}
    (hS : secluded S = true) (A B : List String) (limit : Nat) (take : Option Nat) (s : Session) :
    (Template.parse (A ++ "///<<<" :: (S ++ "///>>>" :: B))).filename =
      (Template.parse (A ++ (S ++ B))).filename ∧
    SameRun s ((Template.parse (A ++ (S ++ B))).root.runWithin limit e take s)
      ((Template.parse (A ++ "///<<<" :: (S ++ "///>>>" :: B))).root.runWithin limit e take s) := by
  have hR := Node.SameInBlocks.congruence e limit
  have halike := (Builder.alike_bracketed hR
    (fun ns hns description => Node.SameInBlocks.bracketed he hns description) hS
    (A.foldl Builder.line {})).foldl_line hR B
  have hnodes := halike.finish hR
  have hplain : (A ++ (S ++ B)).foldl Builder.line {} =
      B.foldl Builder.line (S.foldl Builder.line (A.foldl Builder.line {})) := by
    rw [List.foldl_append, List.foldl_append]
  have hbracketed : (A ++ "///<<<" :: (S ++ "///>>>" :: B)).foldl Builder.line {} =
      B.foldl Builder.line ((S.foldl Builder.line
        ((A.foldl Builder.line {}).line "///<<<")).line "///>>>") := by
    rw [List.foldl_append, List.foldl_cons, List.foldl_append, List.foldl_cons]
  rw [← hplain, ← hbracketed] at hnodes
  refine ⟨filename_bracketed A S B, ?_⟩
  rw [parse_root, parse_root]
  exact sameRun_of_nodes hnodes "<root>" take s

/-- A pattern before the part waits for its replacement in a block inside the part, where it stays. -/
theorem run_bracketed_replacement :
    let S := ["x", "///<<<", "///->\x60z\x60", "x", "///>>>"]
    let plain := ["///=\x60x\x60"] ++ (S ++ ["x"])
    let bracketed := ["///=\x60x\x60"] ++ "///<<<" :: (S ++ "///>>>" :: ["x"])
    let s : Session := { scope := Scope.ofLayer [] }
    let run := (Template.parse plain).root.runWithin 1 .standard none s
    secluded S = true ∧
      SameRun s run ((Template.parse bracketed).root.runWithin 1 .standard none s) ∧
      run.1 = #[⟨"x", 0⟩, ⟨"z", 0⟩, ⟨"x", 0⟩] ∧ run.2.1 = none := by
  have hS : secluded ["x", "///<<<", "///->\x60z\x60", "x", "///>>>"] = true := by decide +kernel
  exact ⟨hS, (run_bracketed Evaluator.standard_byName hS ["///=\x60x\x60"] ["x"] _ _ _).2,
    by decide +kernel, by decide +kernel⟩

end Template

end Stencil
