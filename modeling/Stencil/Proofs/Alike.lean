import Mathlib.Data.List.Forall2
import Stencil.Proofs.Sequence
/-!
# Stencil.Proofs.Alike -- templates that are built alike

Two builders may hold different nodes and still stand at the same place of a template: the same
blocks are open, and the same pattern waits. What is read then goes to corresponding places of both.
So a relation between lists of nodes that can be put together, and that goes from bodies to blocks,
holds of two trees as soon as it holds of the nodes in which their templates differ.
-/

namespace Stencil

/-- A relation between lists of nodes that holds of equal lists, of lists put together from related
ones, and of blocks with related bodies. -/
structure Congruence (R : List Node → List Node → Prop) : Prop where
  refl : ∀ ns, R ns ns
  append : ∀ {ns ns' ms ms' : List Node}, R ns ns' → R ms ms' → R (ns ++ ms) (ns' ++ ms')
  block : ∀ {ns ns' : List Node} (loop : LoopHeader), R ns ns' →
    R [.block loop ns] [.block loop ns']

namespace Builder

variable {R : List Node → List Node → Prop}

/-- Put nodes into the innermost open block, one behind the other. -/
def appendAll (b : Builder) (ns : List Node) : Builder :=
  match b.blocks with
  | [] => { b with top := ns.reverse ++ b.top }
  | o :: os => { b with blocks := { o with nodes := ns.reverse ++ o.nodes } :: os }

theorem appendAll_nil (b : Builder) : b.appendAll [] = b := by
  obtain ⟨top, _ | ⟨o, os⟩, pending, filename, reports⟩ := b <;> rfl

theorem appendAll_singleton (b : Builder) (n : Node) : b.appendAll [n] = b.append n := by
  obtain ⟨top, _ | ⟨o, os⟩, pending, filename, reports⟩ := b <;> rfl

theorem reverse_toList (n : Option Node) : n.toList.reverse = n.toList := by cases n <;> rfl

/-- Open blocks with the same head and related nodes. -/
structure SameBlock (R : List Node → List Node → Prop) (o p : OpenBlock) : Prop where
  loop : p.loop = o.loop
  nodes : R o.nodes.reverse p.nodes.reverse

/-- Builders at the same place of a template, with related nodes. -/
structure Alike (R : List Node → List Node → Prop) (b c : Builder) : Prop where
  top : R b.top.reverse c.top.reverse
  blocks : List.Forall₂ (SameBlock R) b.blocks c.blocks
  pending : c.pending = b.pending

namespace SameBlock

variable {o p : OpenBlock}

theorem refl (hR : Congruence R) (o : OpenBlock) : SameBlock R o o := ⟨rfl, hR.refl _⟩

theorem blockNode (hR : Congruence R) (h : SameBlock R o p) : R [blockNode o] [blockNode p] := by
  rw [Builder.blockNode, Builder.blockNode, h.loop]
  exact hR.block o.loop h.nodes

/-- A block that ends in one that has just been closed. -/
theorem withInner (hR : Congruence R) (h : SameBlock R o p) {inner inner' : Option Node}
    (hinner : R inner.toList inner'.toList) :
    SameBlock R { o with nodes := inner.toList ++ o.nodes }
      { p with nodes := inner'.toList ++ p.nodes } where
  loop := h.loop
  nodes := by
    rw [List.reverse_append, List.reverse_append, reverse_toList, reverse_toList]
    exact hR.append h.nodes hinner

end SameBlock

namespace Alike

variable {b c : Builder}

theorem refl (hR : Congruence R) (b : Builder) : Alike R b b where
  top := hR.refl _
  blocks := List.forall₂_same.mpr fun o _ => .refl hR o
  pending := rfl

/-- What a builder keeps beside its nodes may change, as long as the same pattern waits. -/
theorem withRest (h : Alike R b c) (pending : Option PendingMatch) (f g : Option Path)
    (rs qs : List Report) :
    Alike R { b with pending, filename := f, reports := rs }
      { c with pending, filename := g, reports := qs } where
  top := h.top
  blocks := h.blocks
  pending := rfl

/-- Related nodes go to corresponding places. -/
theorem appendAll (hR : Congruence R) (h : Alike R b c) {ns ms : List Node} (hns : R ns ms) :
    Alike R (b.appendAll ns) (c.appendAll ms) := by
  obtain ⟨top, blocks, pending, f, rs⟩ := b
  obtain ⟨top', blocks', pending', f', rs'⟩ := c
  obtain ⟨htop, hblocks, hpending⟩ := h
  cases hblocks with
  | nil =>
    refine ⟨?_, .nil, hpending⟩
    simpa only [Builder.appendAll, List.reverse_append, List.reverse_reverse] using
      hR.append htop hns
  | cons ho hos =>
    refine ⟨htop, .cons ⟨ho.loop, ?_⟩ hos, hpending⟩
    simpa only [List.reverse_append, List.reverse_reverse] using hR.append ho.nodes hns

/-- The same node goes to corresponding places. -/
theorem append (hR : Congruence R) (h : Alike R b c) (n : Node) :
    Alike R (b.append n) (c.append n) := by
  rw [← appendAll_singleton, ← appendAll_singleton]
  exact h.appendAll hR (hR.refl _)

theorem openBlock (hR : Congruence R) (h : Alike R b c) (loop : LoopHeader) :
    Alike R (b.openBlock loop) (c.openBlock loop) where
  top := h.top
  blocks := .cons (.refl hR _) h.blocks
  pending := h.pending

theorem command (hR : Congruence R) (h : Alike R b c) (d : Command) :
    Alike R (b.command d) (c.command d) := by
  obtain ⟨kind, text, indent⟩ := d
  cases kind with
  | blockOpen loop => exact h.openBlock hR loop
  | blockClose =>
    obtain ⟨top, blocks, pending, f, rs⟩ := b
    obtain ⟨top', blocks', pending', f', rs'⟩ := c
    obtain ⟨htop, hblocks, hpending⟩ := h
    cases hblocks with
    | nil => exact append hR ⟨htop, .nil, hpending⟩ _
    | @cons o p os ps ho hos =>
      have houter : Alike R ⟨top, os, pending, f, rs⟩ ⟨top', ps, pending', f', rs'⟩ :=
        ⟨htop, hos, hpending⟩
      have hclosed := houter.appendAll hR (ho.blockNode hR)
      rw [appendAll_singleton, appendAll_singleton] at hclosed
      have hdescribe : (Builder.blockNode p).describe = (Builder.blockNode o).describe := by
        rw [describe_blockNode, describe_blockNode, ho.loop]
      have hnote := hclosed.append hR (.operation ("pop " ++ (Builder.blockNode o).describe) none)
      simpa only [Builder.command, closeBlock, hdescribe] using hnote
  | replacement text =>
    have hpair := h.pending
    simp only [Builder.command, hpair]
    exact (h.withRest _ _ _ _ _).append hR _
  | pattern mode text =>
    have hpair := h.pending
    simp only [Builder.command, hpair]
    exact (h.withRest _ _ _ _ _).append hR _
  | filename path =>
    have hset : Alike R
        ({ b with filename := some (Path.ofText path) }.report .debug
          ("Output file name set to " ++ (Path.ofText path).shown))
        ({ c with filename := some (Path.ofText path) }.report .debug
          ("Output file name set to " ++ (Path.ofText path).shown)) :=
      ⟨h.top, h.blocks, h.pending⟩
    exact hset.append hR _
  | blank | comment | eval _ | insert _ | normalize _ | unknown => exact h.append hR _

theorem line (hR : Congruence R) (h : Alike R b c) (text : String) :
    Alike R (b.line text) (c.line text) := by
  cases hc : commandOf text with
  | none =>
    rw [line_of_output hc, line_of_output hc]
    exact h.append hR _
  | some d =>
    rw [line_of_command hc, line_of_command hc]
    exact h.command hR d

/-- Builders at the same place of a template stay at the same place. -/
theorem foldl_line (hR : Congruence R) (h : Alike R b c) (lines : List String) :
    Alike R (lines.foldl Builder.line b) (lines.foldl Builder.line c) := by
  induction lines generalizing b c with
  | nil => exact h
  | cons text lines ih =>
    rw [List.foldl_cons, List.foldl_cons]
    exact ih (h.line hR text)

theorem closeAll (hR : Congruence R) {os ps : List OpenBlock}
    (hblocks : List.Forall₂ (SameBlock R) os ps) {inner inner' : Option Node}
    (hinner : R inner.toList inner'.toList) {top top' : List Node}
    (htop : R top.reverse top'.reverse) :
    R (Builder.closeAll inner os top).reverse (Builder.closeAll inner' ps top').reverse := by
  induction hblocks generalizing inner inner' with
  | nil =>
    rw [Builder.closeAll, Builder.closeAll, List.reverse_append, List.reverse_append,
      reverse_toList, reverse_toList]
    exact hR.append htop hinner
  | cons ho _ ih =>
    rw [Builder.closeAll, Builder.closeAll]
    exact ih ((ho.withInner hR hinner).blockNode hR)

theorem openLoops (h : Alike R b c) : c.openLoops = b.openLoops := by
  have hloops : ∀ {os ps : List OpenBlock}, List.Forall₂ (SameBlock R) os ps →
      ps.map (·.loop) = os.map (·.loop) := by
    intro os ps hblocks
    induction hblocks with
    | nil => rfl
    | cons ho _ ih => rw [List.map_cons, List.map_cons, ho.loop, ih]
  rw [Builder.openLoops, Builder.openLoops, hloops h.blocks]

/-- The nodes of templates that have been built alike are related. -/
theorem finish (hR : Congruence R) (h : Alike R b c) : R b.finish c.finish := by
  have hclosed := closeAll hR h.blocks (hR.refl (none : Option Node).toList) h.top
  have hempty : c.blocks.isEmpty = b.blocks.isEmpty := by
    rw [Bool.eq_iff_iff, List.isEmpty_iff_length_eq_zero, List.isEmpty_iff_length_eq_zero,
      h.blocks.length_eq]
  rw [Builder.finish, Builder.finish, hempty, h.openLoops]
  split
  · exact hclosed
  · rw [List.reverse_cons, List.reverse_cons]
    exact hR.append hclosed (hR.refl _)

end Alike

end Builder

end Stencil
