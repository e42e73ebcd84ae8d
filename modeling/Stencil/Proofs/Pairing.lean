import Stencil.Proofs.Outline
/-!
# Stencil.Proofs.Pairing -- patterns and their replacements

A rule is written in two halves, its pattern and its replacement, and anything may stand between
them: other lines of output, other commands, the borders of blocks. Which halves come together is
told by an automaton that is shown the halves alone. It makes of every half a rule, a pattern that
waits, or an error, and the tree of a template has in the places of the halves just what it makes.
No half is lost without a trace, so that they can be counted by what has become of them.
-/

namespace Stencil

/-! ## Halves of rules -/

/-- Half of a rule. -/
inductive Half where
  | pattern (p : PendingMatch)
  | replacement (text : String)
  deriving DecidableEq, Repr

namespace Half

/-- Whether a half is a pattern. -/
def isPattern : Half → Bool
  | pattern _ => true
  | replacement _ => false

/-- Whether a half is a replacement. -/
def isReplacement : Half → Bool
  | pattern _ => false
  | replacement _ => true

end Half

/-- The half of a rule that a command is. -/
def CommandKind.half? : CommandKind → Option Half
  | .pattern mode text => some (.pattern ⟨mode, text⟩)
  | .replacement text => some (.replacement text)
  | _ => none

/-- The half of a rule that a line of a template is. -/
def halfOf (text : String) : Option Half := (demandOf text).bind CommandKind.half?

/-- The halves of rules among the lines of a template. -/
def halves (lines : List String) : List Half := lines.filterMap halfOf

/-! ## The automaton -/

/-- What becomes of a half. -/
inductive Verdict where
  /-- A pattern waits for its replacement. -/
  | waits (p : PendingMatch)
  /-- A replacement makes a rule with the pattern that waits. -/
  | rule (p : PendingMatch) (text : String)
  /-- A replacement for which no pattern waits. -/
  | unmatched (text : String)
  /-- A pattern that comes when `p` waits, and is lost together with it. -/
  | discarded (p : PendingMatch)
  deriving DecidableEq, Repr

namespace Verdict

/-- The node of a half, by what becomes of it. -/
def node : Verdict → Node
  | waits p => .operation p.shown none
  | rule p text => .operation (p.shown ++ "->" ++ text) (some [.rule ⟨p.mode, p.pattern, text⟩])
  | unmatched text => .error ("replacement without match: " ++ text)
  | discarded p => .error ("match without replacement: " ++ p.shown)

/-- The rule that a half completes. -/
def rule? : Verdict → Option Rule
  | rule p text => some ⟨p.mode, p.pattern, text⟩
  | _ => none

/-- The replacement that has no pattern. -/
def unmatched? : Verdict → Option String
  | unmatched text => some text
  | _ => none

/-- The pattern, as it is shown, that has waited in vain. -/
def discarded? : Verdict → Option String
  | discarded p => some p.shown
  | _ => none

end Verdict

/-- What becomes of a half, by the pattern that waits. -/
def judge : Option PendingMatch → Half → Verdict
  | none, .pattern p => .waits p
  | none, .replacement text => .unmatched text
  | some p, .pattern _ => .discarded p
  | some p, .replacement text => .rule p text

/-- The pattern that waits when a half has been read. -/
def waitingAfter : Option PendingMatch → Half → Option PendingMatch
  | none, .pattern p => some p
  | none, .replacement _ => none
  | some _, _ => none

/-- What becomes of halves, one after the other. -/
def verdicts : Option PendingMatch → List Half → List Verdict
  | _, [] => []
  | waiting, h :: hs => judge waiting h :: verdicts (waitingAfter waiting h) hs

/-! ## Rules and errors in trees -/

namespace Node

/-- The rule that an operation registers. -/
def rule? : Node → Option Rule
  | operation _ (some [.rule r]) => some r
  | _ => none

/-- What an error says behind a lead. -/
def told (lead : String) : Node → Option String
  | error message => (Text.afterPrefix? lead.toList message.toList).map String.ofList
  | _ => none

/-- The replacement that an error is about, as one without a pattern. -/
def unmatched? (n : Node) : Option String := n.told "replacement without match: "

/-- The pattern that an error is about, as one without a replacement. -/
def discarded? (n : Node) : Option String := n.told "match without replacement: "

/-- A node that says nothing about halves of rules. -/
structure Neutral (n : Node) : Prop where
  rule : n.rule? = none
  unmatched : n.unmatched? = none
  discarded : n.discarded? = none

theorem told_lead (lead rest : String) : (error (lead ++ rest)).told lead = some rest := by
  have hrest : Text.afterPrefix? lead.toList (lead ++ rest).toList = some rest.toList :=
    Text.afterPrefix?_eq_some_iff.mpr String.toList_append
  rw [told, hrest, Option.map_some, String.ofList_toList]

/-- An error about something else. -/
theorem neutral_error {message : String}
    (hunmatched : Text.afterPrefix? "replacement without match: ".toList message.toList = none)
    (hdiscarded : Text.afterPrefix? "match without replacement: ".toList message.toList = none) :
    (error message).Neutral where
  rule := rfl
  unmatched := by rw [unmatched?, told, hunmatched, Option.map_none]
  discarded := by rw [discarded?, told, hdiscarded, Option.map_none]

theorem neutral_unclosed (heads : List LoopHeader) : (error (unclosedMessage heads)).Neutral := by
  unfold unclosedMessage
  refine neutral_error ?_ ?_ <;> simp [Text.afterPrefix?]

end Node

namespace Verdict

theorem rule?_node (v : Verdict) : v.node.rule? = v.rule? := by
  cases v <;> rfl

theorem unmatched?_node (v : Verdict) : v.node.unmatched? = v.unmatched? := by
  cases v with
  | unmatched text => exact Node.told_lead _ text
  | discarded p =>
    simp [node, Node.unmatched?, Node.told, Text.afterPrefix?, unmatched?]
  | waits | rule => rfl

theorem discarded?_node (v : Verdict) : v.node.discarded? = v.discarded? := by
  cases v with
  | unmatched text =>
    simp [node, Node.discarded?, Node.told, Text.afterPrefix?, discarded?]
  | discarded p => exact Node.told_lead _ p.shown
  | waits | rule => rfl

end Verdict

/-! ## What is read and what is judged -/

namespace Reading

/-- A half is judged by the pattern that waits. -/
theorem node_of_half {c : Command} {h : Half} (hc : c.kind.half? = some h) (r : Reading) :
    r.node c = (judge r.pending h).node ∧
      (r.after c.kind).pending = waitingAfter r.pending h := by
  obtain ⟨heads, pending⟩ := r
  obtain ⟨kind, text, indent⟩ := c
  cases kind with
  | pattern mode t =>
    obtain rfl : Half.pattern ⟨mode, t⟩ = h := Option.some.inj hc
    cases pending <;> exact ⟨rfl, rfl⟩
  | replacement t =>
    obtain rfl : Half.replacement t = h := Option.some.inj hc
    cases pending <;> exact ⟨rfl, rfl⟩
  | _ => cases hc

/-- What is no half says nothing about halves, and what waits goes on waiting. -/
theorem node_of_other {c : Command} (hc : c.kind.half? = none) (r : Reading) :
    (r.node c).Neutral ∧ (r.after c.kind).pending = r.pending := by
  obtain ⟨heads, pending⟩ := r
  obtain ⟨kind, text, indent⟩ := c
  cases kind with
  | pattern | replacement => cases hc
  | blockClose =>
    cases heads with
    | nil => refine ⟨Node.neutral_error ?_ ?_, rfl⟩ <;> simp [Text.afterPrefix?]
    | cons => exact ⟨⟨rfl, rfl, rfl⟩, rfl⟩
  | unknown =>
    refine ⟨Node.neutral_error ?_ ?_, rfl⟩ <;> simp [Text.afterPrefix?]
  | normalize options =>
    have hrule : (Node.operation text (some (options.map .normalize))).rule? = none := by
      cases options <;> rfl
    exact ⟨⟨hrule, rfl, rfl⟩, rfl⟩
  | _ => exact ⟨⟨rfl, rfl, rfl⟩, rfl⟩

theorem nodeOf_of_half {text : String} {h : Half} (ht : halfOf text = some h) (r : Reading) :
    r.nodeOf text = (judge r.pending h).node ∧
      (r.afterLine text).pending = waitingAfter r.pending h := by
  rw [halfOf, demandOf] at ht
  rw [nodeOf, afterLine, demandOf]
  cases hc : commandOf text with
  | none => simp [hc] at ht
  | some c =>
    rw [hc] at ht
    exact node_of_half ht r

theorem nodeOf_of_other {text : String} (ht : halfOf text = none) (r : Reading) :
    (r.nodeOf text).Neutral ∧ (r.afterLine text).pending = r.pending := by
  rw [halfOf, demandOf] at ht
  rw [nodeOf, afterLine, demandOf]
  cases hc : commandOf text with
  | none => exact ⟨⟨rfl, rfl, rfl⟩, rfl⟩
  | some c =>
    rw [hc] at ht
    exact node_of_other ht r

/-- The nodes of halves are what the automaton makes of the halves. -/
theorem nodes_entries (r : Reading) (lines : List String) (rest : List Placed) :
    ((lines.zip (r.entries lines ++ rest)).filterMap fun q => (halfOf q.1).map fun _ => q.2.node) =
      (verdicts r.pending (halves lines)).map Verdict.node := by
  induction lines generalizing r with
  | nil => rfl
  | cons text lines ih =>
    rw [entries, List.cons_append, List.zip_cons_cons]
    cases ht : halfOf text with
    | none =>
      have hother := r.nodeOf_of_other ht
      rw [List.filterMap_cons_none (by simp [ht]), ih, hother.2, halves, halves,
        List.filterMap_cons_none ht]
    | some h =>
      have hhalf := r.nodeOf_of_half ht
      rw [List.filterMap_cons_some (b := r.nodeOf text) (by simp [ht, entry]), ih, hhalf.2,
        hhalf.1, halves, halves, List.filterMap_cons_some ht, verdicts, List.map_cons]

/-- What only halves say is said in the tree as the automaton says it. -/
theorem filterMap_entries {β : Type} {f : Node → Option β} {g : Verdict → Option β}
    (hf : ∀ n : Node, n.Neutral → f n = none) (hg : ∀ v : Verdict, f v.node = g v) (r : Reading)
    (lines : List String) :
    ((r.entries lines).filterMap fun p => f p.node) =
      (verdicts r.pending (halves lines)).filterMap g := by
  induction lines generalizing r with
  | nil => rfl
  | cons text lines ih =>
    rw [entries, List.filterMap_cons, ih]
    cases ht : halfOf text with
    | none =>
      have hother := r.nodeOf_of_other ht
      rw [entry, hf _ hother.1, hother.2, halves, halves, List.filterMap_cons_none ht]
    | some h =>
      have hhalf := r.nodeOf_of_half ht
      rw [entry, hhalf.1, hg, hhalf.2, halves, halves, List.filterMap_cons_some ht, verdicts,
        List.filterMap_cons]

/-- What waits is what the automaton has waiting. -/
theorem pending_foldl_afterLine (lines : List String) (r : Reading) :
    (lines.foldl afterLine r).pending = (halves lines).foldl waitingAfter r.pending := by
  induction lines generalizing r with
  | nil => rfl
  | cons text lines ih =>
    rw [List.foldl_cons, ih]
    cases ht : halfOf text with
    | none => rw [(r.nodeOf_of_other ht).2, halves, halves, List.filterMap_cons_none ht]
    | some h =>
      rw [(r.nodeOf_of_half ht).2, halves, halves, List.filterMap_cons_some ht, List.foldl_cons]

end Reading

/-! ## Counting halves -/

/-- A replacement is in a rule or has no pattern. -/
theorem judge_replacement (waiting : Option PendingMatch) (h : Half) :
    (if h.isReplacement then 1 else 0) =
      (if (judge waiting h).rule?.isSome then 1 else 0) +
        if (judge waiting h).unmatched?.isSome then 1 else 0 := by
  cases h <;> cases waiting <;> rfl

/-- The patterns that wait or come are those that are used, are lost, or wait then. -/
theorem judge_pattern (waiting : Option PendingMatch) (h : Half) :
    waiting.toList.length + (if h.isPattern then 1 else 0) =
      (if (judge waiting h).rule?.isSome then 1 else 0) +
        2 * (if (judge waiting h).discarded?.isSome then 1 else 0) +
        (waitingAfter waiting h).toList.length := by
  cases h <;> cases waiting <;> rfl

/-- Every replacement makes a rule or is an error. -/
theorem countP_replacements (waiting : Option PendingMatch) (hs : List Half) :
    hs.countP Half.isReplacement =
      ((verdicts waiting hs).filterMap Verdict.rule?).length +
        ((verdicts waiting hs).filterMap Verdict.unmatched?).length := by
  induction hs generalizing waiting with
  | nil => rfl
  | cons h hs ih =>
    have hstep := judge_replacement waiting h
    have hrest := ih (waitingAfter waiting h)
    rw [List.length_filterMap_eq_countP, List.length_filterMap_eq_countP] at hrest ⊢
    rw [verdicts, List.countP_cons, List.countP_cons, List.countP_cons]
    omega

/-- Every pattern is in a rule, is lost together with another one, or waits in the end. -/
theorem countP_patterns (waiting : Option PendingMatch) (hs : List Half) :
    waiting.toList.length + hs.countP Half.isPattern =
      ((verdicts waiting hs).filterMap Verdict.rule?).length +
        2 * ((verdicts waiting hs).filterMap Verdict.discarded?).length +
        (hs.foldl waitingAfter waiting).toList.length := by
  induction hs generalizing waiting with
  | nil => simp [verdicts]
  | cons h hs ih =>
    have hstep := judge_pattern waiting h
    have hrest := ih (waitingAfter waiting h)
    rw [List.length_filterMap_eq_countP, List.length_filterMap_eq_countP] at hrest ⊢
    rw [verdicts, List.countP_cons, List.countP_cons, List.countP_cons, List.foldl_cons]
    omega

/-! ## What is reported -/

/-- The report about a pattern that waits when a template ends. -/
def danglingReport (p : PendingMatch) : Report :=
  ⟨.builder, .warning, "Ignoring match without replacement at end of template: " ++ p.shown⟩

/-- The warnings among reports. -/
def warnings (reports : List Report) : List Report := reports.filter (·.level = .warning)

namespace Builder

theorem reports_append (b : Builder) (n : Node) : (b.append n).reports = b.reports := by
  rw [append]
  split <;> rfl

theorem reports_closeBlock {b b' : Builder} {o : OpenBlock} (h : b.closeBlock = some (o, b')) :
    b'.reports = b.reports := by
  rw [closeBlock] at h
  split at h
  · cases h
  · obtain ⟨rfl, rfl⟩ := Prod.mk.inj (Option.some.inj h)
    rw [reports_append]

/-- Reading a command reports at most where the output goes, which is no warning. -/
theorem reports_command (b : Builder) (c : Command) :
    ∃ new, (b.command c).reports = new ++ b.reports ∧ warnings new = [] := by
  obtain ⟨kind, text, indent⟩ := c
  cases kind with
  | filename path =>
    refine ⟨[⟨.builder, .debug, "Output file name set to " ++ (Path.ofText path).shown⟩], ?_, rfl⟩
    rw [command, reports_append]
    rfl
  | blockClose =>
    refine ⟨[], ?_, rfl⟩
    rw [command]
    cases h : b.closeBlock with
    | none => exact b.reports_append _
    | some q => exact (reports_append _ _).trans (reports_closeBlock h)
  | blockOpen => exact ⟨[], rfl, rfl⟩
  | _ => exact ⟨[], reports_append _ _, rfl⟩

theorem reports_line (b : Builder) (text : String) :
    ∃ new, (b.line text).reports = new ++ b.reports ∧ warnings new = [] := by
  cases hc : commandOf text with
  | none =>
    rw [line_of_output hc]
    exact ⟨[], reports_append _ _, rfl⟩
  | some c =>
    rw [line_of_command hc]
    exact b.reports_command c

theorem reports_foldl_line (lines : List String) (b : Builder) :
    ∃ new, (lines.foldl line b).reports = new ++ b.reports ∧ warnings new = [] := by
  induction lines generalizing b with
  | nil => exact ⟨[], rfl, rfl⟩
  | cons text lines ih =>
    obtain ⟨first, hfirst, hnone⟩ := b.reports_line text
    obtain ⟨new, hnew, hnone'⟩ := ih (b.line text)
    refine ⟨new ++ first, ?_, ?_⟩
    · rw [List.foldl_cons, hnew, hfirst, List.append_assoc]
    · rw [warnings, List.filter_append, ← warnings, ← warnings, hnone, hnone', List.append_nil]

theorem reports_dropPending (b : Builder) :
    b.dropPending.reports = b.pending.toList.map danglingReport ++ b.reports := by
  rw [dropPending]
  cases b.pending <;> rfl

/-- A template is warned of exactly when a pattern waits at its end. -/
theorem reports_build (b : Builder) (lines : List String) :
    ∃ new, (b.build lines).2.reports = new ++ b.reports ∧
      warnings new = ((halves lines).foldl waitingAfter none).toList.map danglingReport := by
  obtain ⟨new, hnew, hnone⟩ := reports_foldl_line lines b.restart
  have hpending : (lines.foldl line b.restart).pending =
      (halves lines).foldl waitingAfter none := by
    have hreading := congrArg Reading.pending (reading_foldl_line lines b.restart)
    rwa [Reading.pending_foldl_afterLine] at hreading
  refine ⟨((halves lines).foldl waitingAfter none).toList.map danglingReport ++ new, ?_, ?_⟩
  · rw [build, complete, reports_dropPending, hpending, hnew, List.append_assoc]
    rfl
  · rw [warnings, List.filter_append, ← warnings, ← warnings, hnone, List.append_nil]
    cases (halves lines).foldl waitingAfter none <;> rfl

end Builder

/-! ## Pairs in a template -/

/-- The nodes that stand in the places of the halves of rules. -/
def nodesOfHalves (lines : List String) (root : Node) : List Node :=
  (lines.zip root.descendants).filterMap fun q => (halfOf q.1).map fun _ => q.2.node

/-- In a tree and in what has been reported about it, the halves of rules have been paired. -/
structure Paired (lines : List String) (root : Node) (reports : List Report) : Prop where
  /-- In the places of the halves stands what the automaton makes of them. -/
  nodes : nodesOfHalves lines root = (verdicts none (halves lines)).map Verdict.node
  /-- The tree registers no other rules. -/
  rules : (root.descendants.filterMap fun p => p.node.rule?) =
    (verdicts none (halves lines)).filterMap Verdict.rule?
  /-- Nor does it tell of other replacements without a pattern, -/
  unmatched : (root.descendants.filterMap fun p => p.node.unmatched?) =
    (verdicts none (halves lines)).filterMap Verdict.unmatched?
  /-- or of other patterns without a replacement. -/
  discarded : (root.descendants.filterMap fun p => p.node.discarded?) =
    (verdicts none (halves lines)).filterMap Verdict.discarded?
  /-- A warning tells of the pattern that waits in the end. -/
  dangling : warnings reports = ((halves lines).foldl waitingAfter none).toList.map danglingReport
  /-- Each replacement is in a rule or in an error. -/
  replacements : (halves lines).countP Half.isReplacement =
    (root.descendants.filterMap fun p => p.node.rule?).length +
      (root.descendants.filterMap fun p => p.node.unmatched?).length
  /-- Each pattern is in a rule, is one of the two that an error has cost, or is warned of. -/
  patterns : (halves lines).countP Half.isPattern =
    (root.descendants.filterMap fun p => p.node.rule?).length +
      2 * (root.descendants.filterMap fun p => p.node.discarded?).length +
      (warnings reports).length

namespace Builder

/-- What is said about halves of rules in a tree is said in the places of its lines. -/
theorem filterMap_build {β : Type} {f : Node → Option β} {g : Verdict → Option β}
    (hf : ∀ n : Node, n.Neutral → f n = none) (hg : ∀ v : Verdict, f v.node = g v) (b : Builder)
    (lines : List String) :
    ((b.build lines).1.descendants.filterMap fun p => f p.node) =
      (verdicts none (halves lines)).filterMap g := by
  have hrest (r : Reading) : (r.rest.filterMap fun p => f p.node) = [] := by
    rw [Reading.rest]
    split
    · rfl
    · simp [hf _ (Node.neutral_unclosed _)]
  rw [descendants_build, List.filterMap_append, hrest, List.append_nil,
    Reading.filterMap_entries hf hg]

theorem paired_build (b : Builder) (lines : List String) :
    ∃ new, (b.build lines).2.reports = new ++ b.reports ∧ Paired lines (b.build lines).1 new := by
  obtain ⟨new, hnew, hwarnings⟩ := b.reports_build lines
  have hrules := b.filterMap_build (fun n hn => hn.rule) Verdict.rule?_node lines
  have hunmatched := b.filterMap_build (fun n hn => hn.unmatched) Verdict.unmatched?_node lines
  have hdiscarded := b.filterMap_build (fun n hn => hn.discarded) Verdict.discarded?_node lines
  refine ⟨new, hnew, ⟨?_, hrules, hunmatched, hdiscarded, hwarnings, ?_, ?_⟩⟩
  · rw [nodesOfHalves, descendants_build, Reading.nodes_entries]
  · rw [hrules, hunmatched]
    exact countP_replacements none (halves lines)
  · have hcount := countP_patterns none (halves lines)
    rw [hrules, hdiscarded, hwarnings, List.length_map]
    simpa using hcount

/-- **Patterns and replacements are paired as the automaton says**, which is shown nothing but them:
whatever stands between them in the lines of a template, and whatever has been built before, makes
no difference. Each of them is found again in a rule, in an error or in a warning. -/
theorem parse_paired (b : Builder) (lines : List String) :
    ∃ root b' new, parse ⟨lines, none⟩ b = .ok root b' ∧ b'.reports = new ++ b.reports ∧
      Paired lines root new := by
  obtain ⟨new, hnew, hpaired⟩ := b.paired_build lines
  exact ⟨(b.build lines).1, (b.build lines).2, new, rfl, hnew, hpaired⟩

end Builder

end Stencil
