import Stencil.Proofs.Endless
import Stencil.Proofs.Evaluation
import Stencil.Proofs.Outline
/-!
# Stencil.Proofs.Lengthening -- collections that become larger while they are run through

With the standard evaluator nothing that a run does takes a cell away, changes its kind or turns an
iterator back. So a block gains elements in a pass only where it runs through a list or a set, itself
or by way of other iterators, and the list is longer after the pass than before, or the table of the
set larger. Keeping its size does not keep a set from this: what is put in for something that is taken
out fills the table, and members may come up without end. Entries of a dictionary are counted as they
come up. So rendering ends exactly where every block enlarges what it runs through in finitely many
passes only. A block that appends to its list in each pass shows that rendering need not end.
-/

namespace Stencil

open Stencil.Expr Render

variable {α β : Type}

/-! ## Rules and scopes -/

section Rules

variable {e : Evaluator} {b : Bindings}

theorem steady_resolve (he : e.Steady) (b : Bindings) (text : String) :
    Steady (e.resolve b text) := by
  unfold Evaluator.resolve
  split
  · exact (he.evaluate b _).bind fun _ => steady_asText
  · exact .pure _
  · exact .pure _

theorem steady_replaceHits {replacement : Hit → Act String} (h : ∀ hit, Steady (replacement hit))
    (pos : Nat) (rest : List Char) (hits : List Hit) :
    Steady (replaceHits replacement pos rest hits) := by
  induction hits generalizing pos rest with
  | nil => exact .pure _
  | cons hit hits ih => exact (h hit).bind fun _ => (ih _ _).bind fun _ => .pure _

theorem steady_applyRule (he : e.Steady) (r : Rule) (o : Outcome) : Steady (r.apply e b o) := by
  refine (steady_resolve he b r.pattern).bind fun pattern => (steady_ofExcept _).bind fun hits => ?_
  split
  · exact .pure _
  · refine .tryCatch ?_ fun _ => .pure _
    exact (steady_replaceHits (fun hit => steady_resolve he _ _) _ _ _).bind fun _ => .pure _

mutual

theorem steady_apply (he : e.Steady) : ∀ (m : Substitution) (o : Outcome), Steady (m.apply e b o)
  | .rule r, o => by
    simp only [Substitution.apply]
    exact steady_applyRule he r o
  | .first [], o => by
    simp only [Substitution.apply]
    exact .pure _
  | .first (m :: ms), o => by
    simp only [Substitution.apply]
    exact (steady_applyFirst he (m :: ms) _).bind fun _ => .pure _
  | .all ms, o => by
    simp only [Substitution.apply]
    exact steady_applyAll he ms o

theorem steady_applyFirst (he : e.Steady) :
    ∀ (ms : List Substitution) (o : Outcome), Steady (Substitution.applyFirst e b ms o)
  | [], o => by
    simp only [Substitution.applyFirst]
    exact .pure _
  | m :: ms, o => by
    simp only [Substitution.applyFirst]
    refine (steady_apply he m o).bind fun o' => ?_
    split
    · exact .pure _
    · exact steady_applyFirst he ms o'

theorem steady_applyAll (he : e.Steady) :
    ∀ (ms : List Substitution) (o : Outcome), Steady (Substitution.applyAll e b ms o)
  | [], o => by
    simp only [Substitution.applyAll]
    exact .pure _
  | m :: ms, o => by
    simp only [Substitution.applyAll]
    exact (steady_apply he m o).bind fun o' => steady_applyAll he ms o'

end

theorem steady_filter (he : e.Steady) (s : Scope) (text : String) : Steady (s.filter e text) :=
  .tryCatch ((steady_applyAll he _ _).bind fun _ => .pure _) fun _ => .pure _

theorem steady_execute (he : e.Steady) (s : Scope) (text : String) : Steady (s.execute e text) :=
  (he.execute _ _).bind fun _ => .pure _

theorem steady_addPlaceholder (s : Scope) (name : String) (v : Value) :
    Steady (s.addPlaceholder name v) := steady_asText.bind fun _ => .pure _

theorem steady_elementsOf (v : Value) : Steady (elementsOf v) := by
  have hsingle : Steady (do
      let it := Iter.fixed (if ← truthy v then [v] else [])
      alloc (.iterator it)) := steady_truthy.bind fun _ => steady_alloc _
  cases v with
  | none => exact steady_alloc _
  | str | bytes => exact hsingle
  | _ =>
    unfold elementsOf
    refine steady_iter?.bind fun found => ?_
    split
    · exact .pure _
    · exact hsingle

end Rules

/-! ## Rendering -/

/-- Rendering that loses nothing of the machine, however it ends. -/
def Lossless (a : Render α) : Prop := ∀ s, Evolves s.machine (ended (a s)).machine

namespace Lossless

/-- A step that leaves the machine alone. -/
theorem of_machine {a : Render α} (h : ∀ s, (ended (a s)).machine = s.machine) : Lossless a :=
  fun s => (h s).symm ▸ .refl _

theorem pure (x : α) : Lossless (pure x : Render α) := of_machine fun _ => rfl

theorem bind {a : Render α} {k : α → Render β} (ha : Lossless a) (hk : ∀ x, Lossless (k x)) :
    Lossless (a >>= k) := by
  intro s
  have h := ha s
  cases hrun : a s with
  | ok x t =>
    rw [hrun] at h
    rw [bind_of_ok hrun]
    exact h.trans (hk x t)
  | error q t =>
    rw [hrun] at h
    rwa [bind_of_error hrun]

theorem act {a : Act α} (h : Steady a) : Lossless (act a) := by
  intro s
  have hs := h s.machine
  cases hrun : a s.machine with
  | ok v m =>
    rw [hrun] at hs
    rwa [act_of_ok hrun]
  | error f m =>
    rw [hrun] at hs
    rwa [act_of_error hrun]

theorem attempt {a : Act α} (h : Steady a) : Lossless (attempt a) := by
  intro s
  have hs := h s.machine
  cases hrun : a s.machine with
  | ok v m =>
    rw [hrun] at hs
    rwa [attempt_of_ok hrun]
  | error f m =>
    rw [hrun] at hs
    rwa [attempt_of_error hrun]

theorem currentScope : Lossless currentScope := of_machine fun _ => rfl

theorem modifyScope (f : Scope → Scope) : Lossless (modifyScope f) := of_machine fun _ => rfl

theorem report (r : Reporter) (l : Level) (message : String) : Lossless (report r l message) :=
  of_machine fun _ => rfl

theorem recordError (message : String) : Lossless (recordError message) := of_machine fun _ => rfl

theorem emit (text : String) : Lossless (emit text) := by
  refine of_machine fun s => ?_
  rw [emit_apply]
  split <;> rfl

theorem emitAll (texts : List String) : Lossless (emitAll texts) := by
  induction texts with
  | nil => exact pure ()
  | cons text texts ih => exact (emit text).bind fun _ => ih

theorem perform (description : String) (actions : List Action) :
    Lossless (perform description actions) := by
  induction actions with
  | nil => exact pure ()
  | cons a actions ih =>
    refine currentScope.bind fun scope => ?_
    split
    · exact (modifyScope _).bind fun _ => ih
    · exact recordError _

theorem ensuring {body : Render α} (h : Lossless body) (f : Scope → Scope) :
    Lossless (ensuring body f) := by
  intro s
  rw [ensuring_apply, ended_leftIn]
  exact h s

theorem collecting {body : Render Unit} (h : Lossless body) : Lossless (collecting body) := by
  intro s
  have hs := h (apart s)
  cases hrun : body (apart s) with
  | ok x t =>
    rw [hrun] at hs
    rwa [collecting_of_ok hrun]
  | error q t =>
    rw [hrun] at hs
    rwa [collecting_of_error hrun]

theorem enterPass (name : Option String) (v : Value) : Lossless (enterPass name v) := by
  refine (modifyScope _).bind fun _ => ?_
  dsimp only
  split
  · exact (modifyScope _).bind fun _ => currentScope.bind fun s =>
      (act (steady_addPlaceholder s _ v)).bind fun _ => modifyScope _
  · exact pure ()

theorem nested {body : Render α} (h : Lossless body) (name : Option String) (v : Value) :
    Lossless (nested name v body) := (enterPass name v).bind fun _ => h.ensuring _

section Blocks

variable {body : Render Unit} {loop : LoopHeader}

theorem pass (h : Lossless body) (loop : LoopHeader) (previous : Option (List String)) (v : Value) :
    Lossless (pass loop body previous v) := by
  rw [Render.pass]
  split
  · refine (h.collecting.nested _ _).bind fun lines => ?_
    split
    · exact (report _ _ _).bind fun _ => pure _
    · exact (emitAll _).bind fun _ => pure _
  · exact (h.nested _ _).bind fun _ => pure _

theorem passes (h : Lossless body) (loop : LoopHeader) (r : Ref) (fuel : Nat)
    (previous : Option (List String)) : Lossless (passes loop r body fuel previous) := by
  induction fuel generalizing previous with
  | zero => exact of_machine fun _ => rfl
  | succ fuel ih =>
    refine (act (steady_next r)).bind fun found => ?_
    cases found with
    | none => exact pure ()
    | some v => exact (h.pass loop previous v).bind ih

end Blocks

section Nodes

variable {e : Evaluator} (he : e.Steady)
include he

theorem evaluation (text : String) : Lossless (evaluation e text) :=
  currentScope.bind fun s => attempt (he.evaluate s.bindings text)

theorem filterLine (text : String) : Lossless (filterLine e text) := by
  refine currentScope.bind fun s => (act (steady_filter he s text)).bind fun found => ?_
  dsimp only
  split
  · exact (report _ _ _).bind fun _ => (modifyScope _).bind fun _ => pure _
  · exact (modifyScope _).bind fun _ => pure _

theorem executeNode (text : String) : Lossless (executeNode e text) := by
  refine currentScope.bind fun s => (attempt (steady_execute he s text)).bind fun found => ?_
  cases found with
  | ok => exact modifyScope _
  | error => exact recordError _

theorem insertNode (text indent : String) : Lossless (insertNode e text indent) := by
  rw [insertNode_eq]
  refine (evaluation he text).bind fun found => ?_
  cases found with
  | error => exact recordError _
  | ok v => exact (act steady_asText).bind fun _ => emitAll _

theorem blockNode {body : Render Unit} (h : Lossless body) (limit : Nat) (loop : LoopHeader) :
    Lossless (blockNode e limit loop body) := by
  rw [blockNode_eq]
  split
  · exact h.nested _ _
  · refine (evaluation he _).bind fun found => ?_
    cases found with
    | error => exact recordError _
    | ok v => exact (act (steady_elementsOf v)).bind fun r => h.passes loop r limit none

end Nodes

section Trees

variable {e : Evaluator}

mutual

theorem render (he : e.Steady) (limit : Nat) (n : Node) : Lossless (n.render e limit) := by
  cases n with
  | list _ ns => exact renderAll he limit ns
  | line text => exact (filterLine he text).bind emit
  | block loop ns => exact blockNode he (renderAll he limit ns) limit loop
  | eval text => exact executeNode he text
  | insert text indent => exact insertNode he text indent
  | operation description actions => exact perform description _
  | error message => exact recordError message

/-- Rendering nodes loses nothing where evaluating does not. -/
theorem renderAll (he : e.Steady) (limit : Nat) (ns : List Node) :
    Lossless (Node.renderAll e limit ns) := by
  cases ns with
  | nil => exact pure ()
  | cons n ns => exact (render he limit n).bind fun _ => renderAll he limit ns

end

end Trees

end Lossless

/-! ## Collections that become larger -/

namespace Course

variable (e : Evaluator) (c : Course)

/-- Pass `k` of the block lengthens the list that the block runs through, or enlarges the table of
the set. -/
def Lengthens (k : Nat) : Prop :=
  ∃ previous s m previous' t l, c.After e k previous s ∧ c.Passes e previous s m previous' t ∧
    followed m c.elements = some l ∧ extent m l < extent t.machine l

variable {e c} {k : Nat}

theorem Gains.lengthens (he : e.Steady) (h : c.Gains e k) : c.Lengthens e k := by
  obtain ⟨previous, s, m, previous', t, hafter, hpasses, hgains⟩ := h
  obtain ⟨v, limit, hnext, hpass⟩ := hpasses
  have hevolves := Lossless.pass (Lossless.renderAll he limit c.body) c.loop previous v
    { s with machine := m }
  rw [passFor] at hpass
  rw [hpass] at hevolves
  -- Nothing was lost in the pass, so only a larger collection gives the iterator more.
  obtain ⟨l, hl, hlonger⟩ :=
    (left_le_or_longer hevolves (lt_size_of_next hnext)).resolve_left (Nat.not_le_of_lt hgains)
  exact ⟨previous, s, m, previous', t, l, hafter, ⟨v, limit, hnext, hpass⟩, hl, hlonger⟩

/-- **A block that makes passes without end enlarges what it runs through without end.** -/
theorem makes_iff_lengthens (he : e.Steady) :
    (∀ k, c.Makes e k) ↔ ∀ k, ∃ j ≥ k, c.Lengthens e j := by
  constructor
  · intro hmakes k
    obtain ⟨j, hj, hgains⟩ := makes_iff_gains.mp hmakes k
    exact ⟨j, hj, hgains.lengthens he⟩
  · intro hlengthens k
    obtain ⟨j, hj, _, _, _, _, _, _, hafter, -⟩ := hlengthens k
    exact hafter.makes hj

end Course

/-- **When rendering ends.** With the standard evaluator, rendering a tree ends exactly when every
block that the run comes to makes finitely many passes, and that is so exactly when every block that
the run comes to lengthens its own list, or enlarges the table of its own set, in finitely many passes
only. -/
theorem Node.ends_iff (w : Limits) (n : Node) (s : Session) :
    (n.Ends (.standardWithin w) s ↔
        ∀ c, RunsInto (.standardWithin w) c n (apart s) → ∃ k, ¬c.Makes (.standardWithin w) k) ∧
      (n.Ends (.standardWithin w) s ↔
        ∀ c, RunsInto (.standardWithin w) c n (apart s) →
          ∃ k, ∀ j ≥ k, ¬c.Lengthens (.standardWithin w) j) := by
  refine ⟨ends_iff_makes, ends_iff_makes.trans (forall₂_congr fun c _ => ?_)⟩
  have hlengthens := (c.makes_iff_lengthens (Evaluator.standardWithin_steady w)).not
  push Not at hlengthens
  exact hlengthens

/-! ## A block that adds to its own list -/

/-- A block that runs through a list and appends to it in each pass. -/
def lengthening : List String := ["///<<< xs", "///!xs.append(1)", "a", "///>>>"]

theorem lengthening_root : (Template.parse lengthening).root = .list "<root>"
    [.block ⟨none, some "xs", false⟩ [.eval "xs.append(1)", .line "a"],
      .operation ("pop " ++ (Node.block ⟨none, some "xs", false⟩ []).describe) none] := by
  have hopen : commandOf "///<<< xs" =
      some ⟨.blockOpen ⟨none, some "xs", false⟩, "<<< xs", ""⟩ := by decide +kernel
  have heval : commandOf "///!xs.append(1)" =
      some ⟨.eval "xs.append(1)", "!xs.append(1)", ""⟩ := by decide +kernel
  have hline : commandOf "a" = none := by decide +kernel
  have hclose : commandOf "///>>>" = some ⟨.blockClose, ">>>", ""⟩ := by decide +kernel
  rw [Template.parse, Builder.build, Builder.complete]
  simp only [lengthening, List.foldl_cons, List.foldl_nil, Builder.line_of_command hopen,
    Builder.line_of_command heval, Builder.line_of_output hline, Builder.line_of_command hclose]
  rfl

namespace Expr

/-- The program is the name `xs`. -/
def isName : Except GrammarFault (List Statement) → Bool
  | .ok [.expression (.name n)] => n == "xs"
  | _ => false

theorem readProgram_name : readProgram "xs".toList = .ok [.expression (.name "xs")] := by
  have h : isName (readProgram "xs".toList) = true := by decide +kernel
  unfold isName at h
  split at h
  · next n hread => rw [hread, eq_of_beq h]
  · cases h

/-- The term `xs.append(1)`. -/
def appendOne : Term := .call (.attribute (.name "xs") "append") [.const (.int 1)] []

/-- The program is the term `xs.append(1)`. -/
def isAppend : Except GrammarFault (List Statement) → Bool
  | .ok [.expression (.call (.attribute (.name n) a) [.const (.int i)] [])] =>
    n == "xs" && a == "append" && i == 1
  | _ => false

theorem readProgram_append :
    readProgram "xs.append(1)".toList = .ok [.expression appendOne] := by
  have h : isAppend (readProgram "xs.append(1)".toList) = true := by decide +kernel
  unfold isAppend at h
  split at h
  · next n a i hread =>
    simp only [Bool.and_eq_true, beq_iff_eq] at h
    obtain ⟨⟨rfl, rfl⟩, rfl⟩ := h
    exact hread
  · cases h

theorem restart_apply (m : Machine) : restart m = .ok () { m with steps := 0 } := rfl

theorem evaluate_name {b : Bindings} {v : Value} (hb : b.get? "xs" = some v) (m : Machine) :
    Evaluator.standard.evaluate b "xs" m = .ok v { m with steps := 0 } := by
  have hread : readExpression "xs" { m with steps := 0 } =
      .ok (.expression (.name "xs")) { m with steps := 0 } := by
    rw [readExpression, readProgram_name]
    rfl
  have hvalue : evalStatement ⟨b, "xs"⟩ (.expression (.name "xs")) { m with steps := 0 } =
      .ok v { m with steps := 0 } := by
    simp only [evalStatement, evalTerm, nameValue, hb]
    rfl
  have hrun : (do
      restart
      evalStatement ⟨b, "xs"⟩ (← readExpression "xs") : Act Value) m =
        .ok v { m with steps := 0 } := by
    rw [bind_of_ok (restart_apply m), bind_of_ok hread, hvalue]
  have htrim : Text.trimString "xs" = "xs" := by decide +kernel
  rw [← htrim] at hrun
  exact tryCatch_of_ok hrun

theorem execute_append {b : Bindings} {r : Ref} (hb : b.get? "xs" = some (.list r))
    (m : Machine) :
    Evaluator.standard.execute b "xs.append(1)" m =
      (modifyList r (·.push (.int 1)) >>= fun _ => pure (Value.none, b.inner))
        { m with steps := 0 } := by
  have hread : readStatement "xs.append(1)" m = .ok (.expression appendOne) m := by
    have htrim : Text.trim "xs.append(1)".toList = "xs.append(1)".toList := by decide +kernel
    rw [readStatement]
    dsimp only
    rw [htrim, readProgram_append]
    rfl
  have hcall : evalTerm ⟨b, "xs.append(1)"⟩ [] appendOne { m with steps := 0 } =
      (modifyList r (·.push (.int 1)) >>= fun _ => pure Value.none) { m with steps := 0 } := by
    simp only [appendOne, evalTerm, evalTerms, nameValue, hb, Bindings.lookIn]
    rfl
  have hterm : evaluateTerm b "xs.append(1)" appendOne m =
      (modifyList r (·.push (.int 1)) >>= fun _ => pure Value.none) { m with steps := 0 } :=
    tryCatch_of_ok ((bind_of_ok (restart_apply m)).trans hcall)
  have hrun : Evaluator.standard.execute b "xs.append(1)" m =
      executeStatement b "xs.append(1)" (.expression appendOne) m := bind_of_ok hread
  rw [hrun, executeStatement, bind_of_ok hterm]
  rfl

end Expr

/-- A session in which the list has `size` items, and the iterator of the block is at position
`i`. -/
def lengthened (size i : Nat) (lines : Array Line) : Session :=
  { scope := .ofLayer [("xs", .list 0)]
    machine := { cells := #[.list (Array.replicate size (.int 1)), .iterator (.forward 0 i)] }
    lines }

/-- The block on its way through the list, which has one item in the beginning. -/
def lengtheningCourse : Course :=
  ⟨⟨none, some "xs", false⟩, [.eval "xs.append(1)", .line "a"], 1, lengthened 1 0 #[]⟩

section Lengthening

variable (size i : Nat) (lines : Array Line)

theorem next_lengthened (h : i < size) : next 1 (lengthened size i lines).machine =
    .ok (some (.int 1)) (lengthened size (i + 1) lines).machine := by
  have hitems : listItems 0 (lengthened size i lines).machine =
      .ok (Array.replicate size (.int 1)) (lengthened size i lines).machine := rfl
  have hitem : (Array.replicate size (Value.int 1))[i]? = some (.int 1) := by
    rw [Array.getElem?_replicate, if_pos h]
  rw [next, bind_of_ok (iterState_of_iterator rfl)]
  dsimp only
  rw [bind_of_ok hitems, hitem]
  rfl

/-- The body appends to the list and hands out a line. -/
theorem renderAll_lengthened (limit : Nat) :
    Node.renderAll .standard limit [.eval "xs.append(1)", .line "a"]
        { lengthened size i lines with scope := (lengthened size i lines).scope.enter } =
      .ok () { lengthened (size + 1) i (lines.push ⟨"a", 0⟩) with
        scope := (lengthened size i lines).scope.enter } := by
  have hpush : (modifyList 0 (·.push (.int 1)) >>= fun _ => pure (Value.none, ([] : Layer)))
      (lengthened size i lines).machine =
        .ok (.none, []) (lengthened (size + 1) i lines).machine := by
    rw [lengthened, lengthened, Array.replicate_succ]
    rfl
  have hbound : (lengthened size i lines).scope.enter.bindings.get? "xs" = some (.list 0) := rfl
  have hexecute := (execute_append hbound (lengthened size i lines).machine).trans hpush
  have heval := executeNode_of_ok
    (s := { lengthened size i lines with scope := (lengthened size i lines).scope.enter }) hexecute
  rw [Node.renderAll, Node.render, bind_of_ok heval, Node.renderAll, Node.render]
  rfl

theorem passes_lengthened (h : i < size) : lengtheningCourse.Passes .standard none
    (lengthened size i lines) (lengthened size (i + 1) lines).machine none
    (lengthened (size + 1) (i + 1) (lines.push ⟨"a", 0⟩)) := by
  refine ⟨.int 1, 0, next_lengthened size i lines h, ?_⟩
  have hbody := renderAll_lengthened size (i + 1) lines 0
  have henter := enterPass_of_unnamed (show Option.getD none "" = "" from rfl) (.int 1)
    (lengthened size (i + 1) lines)
  show pass ⟨none, some "xs", false⟩
    (Node.renderAll .standard 0 [.eval "xs.append(1)", .line "a"]) none (.int 1)
    (lengthened size (i + 1) lines) = _
  rw [Render.pass, if_neg Bool.false_ne_true, nested, bind_assoc, bind_of_ok henter,
    bind_of_ok (ensuring_of_ok hbody)]
  rfl

end Lengthening

theorem lengtheningCourse_makes (k : Nat) : lengtheningCourse.Makes .standard k := by
  -- The list stays one item ahead of the iterator.
  have hafter : ∃ lines, lengtheningCourse.After .standard k none (lengthened (k + 1) k lines) := by
    induction k with
    | zero => exact ⟨#[], .zero⟩
    | succ k ih =>
      obtain ⟨lines, hk⟩ := ih
      exact ⟨_, hk.succ (passes_lengthened (k + 1) k lines (Nat.lt_succ_self k))⟩
  obtain ⟨lines, hk⟩ := hafter
  exact ⟨none, _, hk⟩

/-- The template never comes to its end, however many passes its block may make. -/
theorem lengthening_not_ends : ¬(Template.parse lengthening).root.Ends .standard
    { scope := .ofLayer [("xs", .list 0)], machine := { cells := #[.list #[.int 1]] } } := by
  intro hends
  have hopens : Opens .standard ⟨none, some "xs", false⟩ lengtheningCourse.body
      (apart { scope := .ofLayer [("xs", .list 0)], machine := { cells := #[.list #[.int 1]] } })
      lengtheningCourse :=
    ⟨"xs", .list 0, _, 1, _, rfl, evaluate_name rfl _, rfl, rfl⟩
  obtain ⟨limit, huncut⟩ := Node.ends_iff_uncut.mp hends
  -- The only block of the tree is the first thing that the run comes to.
  rw [lengthening_root] at huncut
  exact huncut ((RunsInto.list (.head (.here hopens))).cut lengtheningCourse_makes limit)

end Stencil
