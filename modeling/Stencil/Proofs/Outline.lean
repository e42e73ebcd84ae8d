import Stencil.Template
/-!
# Stencil.Proofs.Outline -- the shape of template trees

A template is built with a stack of open blocks, and its tree is found by walking down from the
root. What the lines say is flat: each of them stands under as many blocks as have been opened and
not yet closed before it. The outline of a tree, which lists its nodes from the top with the number
of blocks around each, is what the two have in common. A builder in the middle of a template has an
outline as well; every line adds one entry to it, and the end of the template adds at most one more.
-/

namespace Stencil

/-! ## Outlines of trees -/

/-- A node without the nodes below it, and how many blocks are around it. -/
structure Placed where
  blocks : Nat
  node : Node

namespace Node

mutual

/-- A tree from the top, each node before those below it, when `blocks` blocks are around it. -/
def outline (blocks : Nat) : Node → List Placed
  | list description ns => ⟨blocks, list description []⟩ :: outlineAll blocks ns
  | block loop ns => ⟨blocks, block loop []⟩ :: outlineAll (blocks + 1) ns
  | line text => [⟨blocks, line text⟩]
  | eval text => [⟨blocks, eval text⟩]
  | insert text indent => [⟨blocks, insert text indent⟩]
  | operation description actions => [⟨blocks, operation description actions⟩]
  | error message => [⟨blocks, error message⟩]

/-- Trees from the top, one after the other. -/
def outlineAll (blocks : Nat) : List Node → List Placed
  | [] => []
  | n :: ns => n.outline blocks ++ outlineAll blocks ns

end

/-- All that stands below a node, from the top. -/
def descendants (n : Node) : List Placed := outlineAll 0 n.children

@[simp] theorem outlineAll_append (d : Nat) (ns ms : List Node) :
    outlineAll d (ns ++ ms) = outlineAll d ns ++ outlineAll d ms := by
  induction ns with
  | nil => rfl
  | cons n ns ih => simp [outlineAll, ih]

@[simp] theorem outlineAll_singleton (d : Nat) (n : Node) : outlineAll d [n] = n.outline d := by
  simp [outlineAll]

end Node

/-! ## What lines say -/

/-- A line without the line ends after it. -/
def chomped (text : String) : String := String.ofList (Text.chomp text.toList)

/-- The command that a line of a template is; a line of output is none. -/
def commandOf (text : String) : Option Command := Command.classify (chomped text)

/-- What a line of a template demands. -/
def demandOf (text : String) : Option CommandKind := (commandOf text).map (·.kind)

theorem commandOf_eq_none_iff (text : String) :
    commandOf text = none ↔ isCommand (chomped text) = false := by
  rw [commandOf, Command.classify, Option.map_eq_none_iff, isCommand, Option.isSome_eq_false_iff,
    Option.isNone_iff_eq_none]

/-- What has been read, as far as the next line depends on it: the heads of the blocks that are
open, the innermost first, and the pattern that waits. -/
structure Reading where
  heads : List LoopHeader := []
  pending : Option PendingMatch := none
  deriving DecidableEq, Repr

/-- The message about blocks that are left open, from their heads, the outermost first. -/
def unclosedMessage (heads : List LoopHeader) : String :=
  "unbalanced block: not closed: " ++ ", ".intercalate (heads.map LoopHeader.shown)

namespace Reading

/-- What has been read when a command has been. -/
def after (r : Reading) : CommandKind → Reading
  | .replacement text => { r with pending := (Builder.pairReplacement r.pending text).2 }
  | .pattern mode text => { r with pending := (Builder.pairPattern r.pending mode text).2 }
  | .blockOpen loop => { r with heads := loop :: r.heads }
  | .blockClose => { r with heads := r.heads.tail }
  | _ => r

/-- What has been read when a line has been. -/
def afterLine (r : Reading) (text : String) : Reading := (demandOf text).elim r r.after

/-- The node of a command; that of a block has nothing below it yet. -/
def node (r : Reading) (c : Command) : Node :=
  match c.kind with
  | .blank => .operation "<blank>" none
  | .comment => .operation c.text none
  | .replacement text => (Builder.pairReplacement r.pending text).1
  | .pattern mode text => (Builder.pairPattern r.pending mode text).1
  | .blockOpen loop => .block loop []
  | .blockClose =>
    match r.heads with
    | [] => .error "unbalanced block close"
    | loop :: _ => .operation ("pop " ++ (Node.block loop []).describe) none
  | .eval text => .eval text
  | .insert text => .insert text c.indent
  | .normalize options => .operation c.text (some (options.map .normalize))
  | .filename _ => .operation c.text none
  | .unknown => .error ("unknown command: " ++ c.text)

/-- The node of a line. -/
def nodeOf (r : Reading) (text : String) : Node :=
  (commandOf text).elim (.line (chomped text)) r.node

/-- The heads of the blocks around the node of a command. What closes a block stands behind it. -/
def around (r : Reading) : CommandKind → List LoopHeader
  | .blockClose => r.heads.tail
  | _ => r.heads

/-- How many blocks are around the node of a line. -/
def blocksAround (r : Reading) (text : String) : Nat :=
  ((demandOf text).elim r.heads r.around).length

/-- What a line adds to the outline. -/
def entry (r : Reading) (text : String) : Placed := ⟨r.blocksAround text, r.nodeOf text⟩

/-- What lines add to the outline one after the other. -/
def entries : Reading → List String → List Placed
  | _, [] => []
  | r, text :: texts => r.entry text :: (r.afterLine text).entries texts

/-- What the end of a template adds to the outline. -/
def rest (r : Reading) : List Placed :=
  if r.heads = [] then [] else [⟨0, .error (unclosedMessage r.heads.reverse)⟩]

end Reading

/-! ## Outlines of builders -/

namespace Builder

/-- The outline of open blocks, the innermost of which comes first in the list and last in the
outline. -/
def outlineOpen : List OpenBlock → List Placed
  | [] => []
  | o :: os =>
    outlineOpen os ++
      ⟨os.length, .block o.loop []⟩ :: Node.outlineAll (os.length + 1) o.nodes.reverse

/-- The outline of what has been built. -/
def outline (b : Builder) : List Placed := Node.outlineAll 0 b.top.reverse ++ outlineOpen b.blocks

/-- What has been read when a builder has come to where it is. -/
def reading (b : Builder) : Reading := ⟨b.blocks.map (·.loop), b.pending⟩

@[simp] theorem length_heads (b : Builder) : b.reading.heads.length = b.blocks.length := by
  simp [reading]

/-- A node goes to the end of the outline, below the blocks that are open. -/
theorem outline_append (b : Builder) (n : Node) :
    (b.append n).outline = b.outline ++ n.outline b.blocks.length := by
  cases hblocks : b.blocks with
  | nil => simp [append, outline, outlineOpen, hblocks]
  | cons o os => simp [append, outline, outlineOpen, hblocks]

theorem reading_append (b : Builder) (n : Node) : (b.append n).reading = b.reading := by
  cases hblocks : b.blocks with
  | nil => simp [append, reading, hblocks]
  | cons o os => simp [append, reading, hblocks]

/-- Closing a block leaves the outline as it is: all of the block has been in its place before. -/
theorem outline_closed {b : Builder} {o : OpenBlock} {os : List OpenBlock}
    (h : b.blocks = o :: os) :
    ({ b with blocks := os }.append (blockNode o)).outline = b.outline := by
  rw [outline_append]
  simp [outline, outlineOpen, h, blockNode, Node.outline]

/-- A builder that has come from another by one entry of the outline. -/
structure Reads (b b' : Builder) (p : Placed) (r : Reading) : Prop where
  outline : b'.outline = b.outline ++ [p]
  reading : b'.reading = r

namespace Reads

/-- A leaf is one entry. What the builder keeps beside its nodes may have changed with it. -/
theorem append {b b₀ : Builder} {n : Node} (htop : b₀.top = b.top) (hblocks : b₀.blocks = b.blocks)
    (hn : ∀ d, n.outline d = [⟨d, n⟩]) :
    Reads b (b₀.append n) ⟨b.reading.heads.length, n⟩ { b.reading with pending := b₀.pending } where
  outline := by
    rw [outline_append, hn, length_heads, Builder.outline, Builder.outline, htop, hblocks]
  reading := by
    rw [reading_append, Builder.reading, Builder.reading, hblocks]

/-- A block whose end has not come is one entry, and then the innermost block that is open. -/
theorem openBlock (b : Builder) (loop : LoopHeader) :
    Reads b (b.openBlock loop) ⟨b.reading.heads.length, .block loop []⟩
      (b.reading.after (.blockOpen loop)) where
  outline := by
    simp [Builder.openBlock, Builder.outline, outlineOpen, Node.outlineAll]
  reading := by
    simp [Builder.openBlock, Builder.reading, Reading.after]

theorem closeBlock {b : Builder} {o : OpenBlock} {os : List OpenBlock} {n : Node}
    (h : b.blocks = o :: os) (hn : ∀ d, n.outline d = [⟨d, n⟩]) :
    Reads b (({ b with blocks := os }.append (blockNode o)).append n) ⟨os.length, n⟩
      (b.reading.after .blockClose) where
  outline := by
    have hlen : ({ b with blocks := os }.append (blockNode o)).blocks.length = os.length := by
      rw [← length_heads, reading_append, length_heads]
    rw [outline_append, outline_closed h, hn, hlen]
  reading := by
    rw [reading_append, reading_append]
    simp [Builder.reading, h, Reading.after]

end Reads

theorem describe_blockNode (o : OpenBlock) :
    (blockNode o).describe = (Node.block o.loop []).describe := rfl

theorem outline_pairReplacement (pending : Option PendingMatch) (text : String) (d : Nat) :
    (pairReplacement pending text).1.outline d = [⟨d, (pairReplacement pending text).1⟩] := by
  cases pending <;> rfl

theorem outline_pairPattern (pending : Option PendingMatch) (mode : MatchMode) (text : String)
    (d : Nat) :
    (pairPattern pending mode text).1.outline d = [⟨d, (pairPattern pending mode text).1⟩] := by
  cases pending <;> rfl

/-- What a command adds. -/
theorem reads_command (b : Builder) (c : Command) :
    Reads b (b.command c) ⟨(b.reading.around c.kind).length, b.reading.node c⟩
      (b.reading.after c.kind) := by
  obtain ⟨kind, text, indent⟩ := c
  cases kind with
  | blockOpen loop => exact .openBlock b loop
  | blockClose =>
    cases hblocks : b.blocks with
    | nil =>
      have hread : Reads b (b.append (.error "unbalanced block close")) _ _ :=
        .append rfl rfl fun _ => rfl
      simpa [command, closeBlock, hblocks, Reading.node, Reading.around, Reading.after,
        reading] using hread
    | cons o os =>
      have hread := Reads.closeBlock hblocks
        (n := .operation ("pop " ++ (blockNode o).describe) none) fun _ => rfl
      simpa [command, closeBlock, hblocks, Reading.node, Reading.around, Reading.after, reading,
        describe_blockNode] using hread
  | replacement text => exact .append rfl rfl (outline_pairReplacement b.pending text)
  | pattern mode text => exact .append rfl rfl (outline_pairPattern b.pending mode text)
  | blank | comment | eval _ | insert _ | normalize _ | filename _ | unknown =>
    exact .append rfl rfl fun _ => rfl

theorem line_of_output {text : String} (h : commandOf text = none) (b : Builder) :
    b.line text = b.append (.line (chomped text)) := by
  rw [commandOf, chomped] at h
  rw [line, h, chomped]

theorem line_of_command {text : String} {c : Command} (h : commandOf text = some c) (b : Builder) :
    b.line text = b.command c := by
  rw [commandOf, chomped] at h
  rw [line, h]

/-- Every line adds one entry, which only depends on what has been read before it. -/
theorem reads_line (b : Builder) (text : String) :
    Reads b (b.line text) (b.reading.entry text) (b.reading.afterLine text) := by
  rw [Reading.entry, Reading.blocksAround, Reading.nodeOf, Reading.afterLine, demandOf]
  cases hc : commandOf text with
  | none =>
    rw [line_of_output hc]
    exact .append rfl rfl fun _ => rfl
  | some c =>
    rw [line_of_command hc]
    exact b.reads_command c

/-- Lines add their entries one after the other. -/
theorem outline_foldl_line (lines : List String) (b : Builder) :
    (lines.foldl line b).outline = b.outline ++ b.reading.entries lines := by
  induction lines generalizing b with
  | nil => rw [Reading.entries, List.append_nil, List.foldl_nil]
  | cons text lines ih =>
    have hline := b.reads_line text
    rw [List.foldl_cons, ih, hline.outline, hline.reading, Reading.entries, List.append_assoc,
      List.singleton_append]

theorem reading_foldl_line (lines : List String) (b : Builder) :
    (lines.foldl line b).reading = lines.foldl Reading.afterLine b.reading := by
  induction lines generalizing b with
  | nil => rw [List.foldl_nil, List.foldl_nil]
  | cons text lines ih => rw [List.foldl_cons, ih, (b.reads_line text).reading, List.foldl_cons]

/-! ## The end of a template -/

/-- Closing blocks from the inside out leaves the outline as it is. -/
theorem outlineAll_closeAll (inner : Option Node) (os : List OpenBlock) (top : List Node) :
    Node.outlineAll 0 (closeAll inner os top).reverse =
      Node.outlineAll 0 top.reverse ++ outlineOpen os ++
        Node.outlineAll os.length inner.toList := by
  induction os generalizing inner with
  | nil => cases inner <;> simp [closeAll, outlineOpen, Node.outlineAll]
  | cons o os ih =>
    rw [closeAll, ih]
    cases inner <;> simp [outlineOpen, blockNode, Node.outlineAll, Node.outline]

theorem finish_dropPending (b : Builder) : b.dropPending.finish = b.finish := by
  rw [dropPending]
  split <;> rfl

theorem finish_of_closed {b : Builder} (h : b.blocks = []) :
    b.finish = (closeAll none b.blocks b.top).reverse := by
  rw [finish, h, List.isEmpty_nil, if_pos rfl]

theorem finish_of_open {b : Builder} (h : b.blocks ≠ []) :
    b.finish =
      (closeAll none b.blocks b.top).reverse ++
        [.error (unclosedMessage b.reading.heads.reverse)] := by
  have hopen : ¬b.blocks.isEmpty = true := by simpa using h
  rw [finish, if_neg hopen, List.reverse_cons]
  rfl

/-- The end of a template adds an error exactly when blocks are open. -/
theorem outlineAll_finish (b : Builder) :
    Node.outlineAll 0 b.finish = b.outline ++ b.reading.rest := by
  have hclosed : Node.outlineAll 0 (closeAll none b.blocks b.top).reverse = b.outline := by
    rw [outlineAll_closeAll, Option.toList_none, Node.outlineAll, List.append_nil, outline]
  by_cases h : b.blocks = []
  · have hheads : b.reading.heads = [] := by rw [reading, h, List.map_nil]
    rw [finish_of_closed h, hclosed, Reading.rest, if_pos hheads, List.append_nil]
  · have hheads : ¬b.reading.heads = [] := by rwa [reading, List.map_eq_nil_iff]
    rw [finish_of_open h, Node.outlineAll_append, hclosed, Node.outlineAll_singleton, Node.outline,
      Reading.rest, if_neg hheads]

/-- **The outline of a template is what its lines say**, one entry for each of them in their order,
and at most one more at the end. What a builder has read before does not matter. -/
theorem descendants_build (b : Builder) (lines : List String) :
    (b.build lines).1.descendants =
      ({} : Reading).entries lines ++ (lines.foldl Reading.afterLine {}).rest := by
  rw [build, complete, Node.descendants, Node.children, finish_dropPending, outlineAll_finish,
    outline_foldl_line, reading_foldl_line]
  simp [restart, outline, reading, outlineOpen, Node.outlineAll]

end Builder

/-! ## Counting blocks -/

/-- The count of open blocks after a command. -/
def countAfter (count : Nat) : CommandKind → Nat
  | .blockOpen _ => count + 1
  | .blockClose => count - 1
  | _ => count

/-- The count of open blocks after a line. -/
def counted (count : Nat) (text : String) : Nat := (demandOf text).elim count (countAfter count)

/-- The count of open blocks after lines. -/
def openCount (lines : List String) : Nat := lines.foldl counted 0

/-- The count of open blocks at the node of a command: what closes a block counts for the command
itself, what opens one only for those behind it. -/
def countFor (count : Nat) : CommandKind → Nat
  | .blockClose => count - 1
  | _ => count

/-- The count of open blocks at the node of a line. -/
def countAt (count : Nat) (text : String) : Nat := (demandOf text).elim count (countFor count)

namespace Reading

/-- What has been read when a builder that is at the start of a template has read lines. -/
def ofLines (lines : List String) : Reading := lines.foldl afterLine {}

theorem length_heads_afterLine (r : Reading) (text : String) :
    (r.afterLine text).heads.length = counted r.heads.length text := by
  rw [afterLine, counted]
  cases demandOf text with
  | none => rfl
  | some k => cases k <;> simp [after, countAfter]

/-- As many blocks are open as the count says. -/
theorem length_heads_ofLines (lines : List String) :
    (ofLines lines).heads.length = openCount lines := by
  have hfold : ∀ (lines : List String) (r : Reading),
      (lines.foldl afterLine r).heads.length = lines.foldl counted r.heads.length := by
    intro lines
    induction lines with
    | nil => exact fun _ => rfl
    | cons text lines ih =>
      intro r
      rw [List.foldl_cons, List.foldl_cons, ih, length_heads_afterLine]
  exact hfold lines {}

theorem blocksAround_eq (r : Reading) (text : String) :
    r.blocksAround text = countAt r.heads.length text := by
  rw [blocksAround, countAt]
  cases demandOf text with
  | none => rfl
  | some k => cases k <;> simp [around, countFor]

theorem length_entries (r : Reading) (lines : List String) :
    (r.entries lines).length = lines.length := by
  induction lines generalizing r with
  | nil => rfl
  | cons text lines ih => rw [entries, List.length_cons, List.length_cons, ih]

/-- The entry of a line depends on what has been read before it. -/
theorem getElem?_entries (r : Reading) (lines : List String) (i : Nat) :
    (r.entries lines)[i]? = lines[i]?.map ((lines.take i).foldl afterLine r).entry := by
  induction lines generalizing r i with
  | nil => rfl
  | cons text lines ih =>
    cases i with
    | zero => rfl
    | succ i => simpa [entries] using ih (r.afterLine text) i

/-! ## The nodes of lines -/

/-- Only lines of output give lines. -/
theorem nodeOf_eq_line_iff (r : Reading) (text t : String) :
    r.nodeOf text = .line t ↔ isCommand (chomped text) = false ∧ t = chomped text := by
  rw [← commandOf_eq_none_iff, nodeOf]
  cases hc : commandOf text with
  | none => simp [eq_comm]
  | some c =>
    obtain ⟨heads, pending⟩ := r
    obtain ⟨kind, ctext, indent⟩ := c
    have hnode : node ⟨heads, pending⟩ ⟨kind, ctext, indent⟩ ≠ .line t := by
      cases kind with
      | replacement => cases pending <;> simp [node, Builder.pairReplacement]
      | pattern => cases pending <;> simp [node, Builder.pairPattern]
      | blockClose => cases heads <;> simp [node]
      | _ => simp [node]
    simpa using hnode

/-- Only a line that closes a block where none is open gives the error about that. -/
theorem nodeOf_eq_unbalanced_iff (r : Reading) (text : String) :
    r.nodeOf text = .error "unbalanced block close" ↔
      demandOf text = some .blockClose ∧ r.heads = [] := by
  rw [nodeOf, demandOf]
  cases hc : commandOf text with
  | none => simp
  | some c =>
    obtain ⟨heads, pending⟩ := r
    obtain ⟨kind, ctext, indent⟩ := c
    cases kind with
    | replacement t =>
      have hlead : "replacement without match: " ++ t ≠ "unbalanced block close" := fun h => by
        simpa using congrArg String.toList h
      cases pending <;> simp [node, Builder.pairReplacement, hlead]
    | pattern mode t =>
      cases pending with
      | none => simp [node, Builder.pairPattern]
      | some p =>
        have hlead : "match without replacement: " ++ p.shown ≠ "unbalanced block close" :=
          fun h => by simpa using congrArg String.toList h
        simp [node, Builder.pairPattern, hlead]
    | blockClose => cases heads <;> simp [node]
    | unknown =>
      have hlead : "unknown command: " ++ ctext ≠ "unbalanced block close" := fun h => by
        simpa using congrArg String.toList h
      simp [node, hlead]
    | _ => simp [node]

end Reading

/-! ## The shape of a template -/

/-- A tree has the shape that lines give it. -/
structure Shape (lines : List String) (root : Node) : Prop where
  /-- Below the root stand a node for each line and, where blocks are left open, one more. -/
  length : root.descendants.length = lines.length + if openCount lines = 0 then 0 else 1
  /-- The node of a line stands in the place of the line, and as many blocks are around it as are
  counted there. -/
  line : ∀ (i : Nat) (text : String), lines[i]? = some text →
    root.descendants[i]? =
      some ⟨countAt (openCount (lines.take i)) text, (Reading.ofLines (lines.take i)).nodeOf text⟩
  /-- The node of a line is a line of output exactly when the line is no command. -/
  output : ∀ (i : Nat) (text t : String) (p : Placed),
    lines[i]? = some text → root.descendants[i]? = some p →
    (p.node = .line t ↔ isCommand (chomped text) = false ∧ t = chomped text)
  /-- The end of a block is an error exactly when the count is nothing there. -/
  unbalanced : ∀ (i : Nat) (text : String) (p : Placed),
    lines[i]? = some text → root.descendants[i]? = some p →
    (p.node = .error "unbalanced block close" ↔
      demandOf text = some .blockClose ∧ openCount (lines.take i) = 0)
  /-- As many heads are those of open blocks as are counted in the end. -/
  heads : (Reading.ofLines lines).heads.length = openCount lines
  /-- Blocks that are left open are told behind everything else, the outermost first. -/
  unclosed : openCount lines ≠ 0 →
    root.descendants[lines.length]? =
      some ⟨0, .error (unclosedMessage (Reading.ofLines lines).heads.reverse)⟩ ∧
    root.children.getLast? = some (.error (unclosedMessage (Reading.ofLines lines).heads.reverse))

namespace Builder

/-- The last node at the top tells the blocks that are left open. -/
theorem getLast?_children_build (b : Builder) (lines : List String)
    (h : (Reading.ofLines lines).heads ≠ []) :
    (b.build lines).1.children.getLast? =
      some (.error (unclosedMessage (Reading.ofLines lines).heads.reverse)) := by
  have hreading : (lines.foldl line b.restart).reading = Reading.ofLines lines := by
    rw [reading_foldl_line, Reading.ofLines]
    rfl
  have hblocks : (lines.foldl line b.restart).blocks ≠ [] := by
    rintro hnil
    rw [← hreading, reading, hnil, List.map_nil] at h
    exact h rfl
  rw [build, complete, Node.children, finish_dropPending, finish_of_open hblocks, hreading]
  simp

theorem shape_build (b : Builder) (lines : List String) : Shape lines (b.build lines).1 := by
  have hopen : (Reading.ofLines lines).heads = [] ↔ openCount lines = 0 := by
    rw [← Reading.length_heads_ofLines, List.length_eq_zero_iff]
  have houtline : (b.build lines).1.descendants =
      ({} : Reading).entries lines ++ (Reading.ofLines lines).rest := b.descendants_build lines
  have hline : ∀ (i : Nat) (text : String), lines[i]? = some text →
      (b.build lines).1.descendants[i]? =
        some ⟨countAt (openCount (lines.take i)) text,
          (Reading.ofLines (lines.take i)).nodeOf text⟩ := by
    intro i text hi
    have hlt : i < (({} : Reading).entries lines).length := by
      rw [Reading.length_entries]
      exact (List.getElem?_eq_some_iff.mp hi).1
    rw [houtline, List.getElem?_append_left hlt, Reading.getElem?_entries, hi, Option.map_some,
      ← Reading.length_heads_ofLines, ← Reading.blocksAround_eq]
    rfl
  refine ⟨?_, hline, ?_, ?_, Reading.length_heads_ofLines lines, ?_⟩
  · rw [houtline, List.length_append, Reading.length_entries, Reading.rest]
    simp only [hopen]
    split <;> rfl
  · intro i text t p hi hp
    rw [hline i text hi, Option.some.injEq] at hp
    rw [← hp, Reading.nodeOf_eq_line_iff]
  · intro i text p hi hp
    rw [hline i text hi, Option.some.injEq] at hp
    rw [← hp, Reading.nodeOf_eq_unbalanced_iff, ← Reading.length_heads_ofLines,
      List.length_eq_zero_iff]
  · intro hcount
    have hheads : ¬(Reading.ofLines lines).heads = [] := fun h => hcount (hopen.mp h)
    refine ⟨?_, b.getLast?_children_build lines hheads⟩
    rw [houtline, List.getElem?_append_right (Nat.le_of_eq (Reading.length_entries {} lines)),
      Reading.length_entries, Nat.sub_self, Reading.rest, if_neg hheads]
    rfl

/-- **A tree has the shape that its lines give it**, in whatever state templates before it, read to
their end or cut short by a failure of their source, have left the builder. Building does not fail:
every line has its node, in its place and under the blocks that are counted there, and only blocks
that are left open add a further node, which names them. -/
theorem parse_shape (b : Builder) (lines : List String) :
    ∃ root b', parse ⟨lines, none⟩ b = .ok root b' ∧ Shape lines root :=
  ⟨(b.build lines).1, (b.build lines).2, rfl, b.shape_build lines⟩

end Builder

end Stencil
