import Stencil.Proofs.Filtering
/-!
# Stencil.Proofs.Rendering -- what each node does

One lemma for each way in which a step of rendering can end. A line that is filtered, a statement
that is executed and an expression whose value cannot be found never end rendering: a failure of
theirs is recorded, and what follows goes on in the session with that record.
-/

namespace Stencil

open Stencil.Expr

namespace Scope

/-- A pattern that cannot be used is recorded, and told in place of the line. -/
theorem filter_of_error {s : Scope} {e : Evaluator} {text : String} {m m' : Machine} {f : Failure}
    (h : s.filterOrFail e text m = .error f m') :
    s.filter e text m = .ok (⟨false, diagnostic f.message⟩, s.error f.messageOrKind) m' := by
  rw [filter]
  exact tryCatch_of_error (bind_of_error h)

/-- The scope in which a statement has left the innermost layer as `inner`. -/
def rebound (s : Scope) (inner : Layer) : Scope := { s with bindings := ⟨inner, s.bindings.outer⟩ }

/-- The scope of a pass whose element has a name: the name is bound, and its placeholder stands in a
group of its own. -/
def passing (s : Scope) (name : String) (v : Value) (shown : String) : Scope :=
  ((s.enter.bind name v).add (placeholder name shown)).newGroup

end Scope

namespace Render

variable {e : Evaluator} {s : Session} {text : String} {v : Value} {f : Failure} {m : Machine}

/-! ## Handing out lines -/

/-- The session in which a line has been handed out. -/
def handed (text : String) (s : Session) : Session :=
  { s with
    lines := s.lines.push ⟨text, s.scope.errors.length⟩
    wanted := s.wanted.map (· - 1) }

theorem emit_apply (text : String) (s : Session) :
    emit text s =
      if s.wanted.map (· - 1) = some 0 then .error .closed (handed text s)
      else .ok () (handed text s) := by
  by_cases h : s.wanted.map (· - 1) = some 0
  · have hb : (s.wanted.map (· - 1) == some 0) = true := by simpa using h
    rw [if_pos h]
    show (if (s.wanted.map (· - 1) == some 0) = true then _ else _ : Render Unit) (handed text s) = _
    rw [if_pos hb]
    rfl
  · have hb : ¬(s.wanted.map (· - 1) == some 0) = true := by simpa using h
    rw [if_neg h]
    show (if (s.wanted.map (· - 1) == some 0) = true then _ else _ : Render Unit) (handed text s) = _
    rw [if_neg hb]
    rfl

/-- Where all lines are wanted, handing one out does not end rendering. -/
theorem emit_of_all (text : String) (h : s.wanted = none) :
    emit text s = .ok () (handed text s) := by
  rw [emit_apply, h]
  rfl

/-! ## Lines, statements and insertions -/

theorem filterLine_of_ok {o : Outcome} (h : s.scope.filterOrFail e text s.machine = .ok o m) :
    filterLine e text s = .ok o.text { s with machine := m } := by
  rw [filterLine, bind_of_ok (currentScope_apply s), bind_of_ok (act_of_ok (Scope.filter_of_ok h))]
  simp
  rfl

theorem filterLine_of_error (h : s.scope.filterOrFail e text s.machine = .error f m) :
    filterLine e text s =
      .ok (diagnostic f.message) (recorded f.messageOrKind { s with machine := m }) := by
  rw [filterLine, bind_of_ok (currentScope_apply s),
    bind_of_ok (act_of_ok (Scope.filter_of_error h))]
  simp [Scope.error]
  rfl

theorem executeNode_of_ok {inner : Layer}
    (h : e.execute s.scope.bindings text s.machine = .ok (v, inner) m) :
    executeNode e text s = .ok () { s with scope := s.scope.rebound inner, machine := m } := by
  have hscope : s.scope.execute e text s.machine = .ok (v, s.scope.rebound inner) m := by
    rw [Scope.execute, bind_of_ok h]
    rfl
  rw [executeNode, bind_of_ok (currentScope_apply s), bind_of_ok (attempt_of_ok hscope)]
  rfl

theorem executeNode_of_error (h : e.execute s.scope.bindings text s.machine = .error f m) :
    executeNode e text s =
      .ok () (recorded ("!" ++ text ++ ": " ++ f.describe) { s with machine := m }) := by
  have hscope : s.scope.execute e text s.machine = .error f m := bind_of_error h
  rw [executeNode, bind_of_ok (currentScope_apply s), bind_of_ok (attempt_of_error hscope)]
  rfl

theorem insertNode_of_ok (indent : String) (h : s.scope.evaluate e text s.machine = .ok v m) :
    insertNode e text indent s =
      (act (asText v) >>= fun shown =>
        emitAll ((Text.textLines shown.toList).map fun l => indent ++ String.ofList l))
        { s with machine := m } := by
  rw [insertNode, bind_of_ok (currentScope_apply s), bind_of_ok (attempt_of_ok h)]

theorem insertNode_of_error (indent : String) (h : s.scope.evaluate e text s.machine = .error f m) :
    insertNode e text indent s =
      .ok () (recorded (">" ++ text ++ ": " ++ f.describe) { s with machine := m }) := by
  rw [insertNode, bind_of_ok (currentScope_apply s), bind_of_ok (attempt_of_error h)]
  rfl

/-! ## Operations -/

section Operations

variable {description : String} {a : Action} {as : List Action} {scope : Scope}

theorem perform_cons_of_ok (h : a.apply s.scope = .ok scope) :
    perform description (a :: as) s = perform description as { s with scope := scope } := by
  rw [perform, bind_of_ok (currentScope_apply s), h]
  rfl

theorem perform_cons_of_error (h : a.apply s.scope = .error f) :
    perform description (a :: as) s = .ok () (recorded (description ++ ": " ++ f.describe) s) := by
  rw [perform, bind_of_ok (currentScope_apply s), h]
  rfl

end Operations

/-- An operation without actions only keeps the place of its line. -/
theorem render_unused {limit : Nat} (description : String) :
    (Node.operation description none).render e limit s = .ok () s := rfl

theorem render_rule {limit : Nat} (description : String) (r : Rule) :
    (Node.operation description (some [.rule r])).render e limit s =
      .ok () { s with scope := s.scope.addAlone r } := rfl

/-! ## Blocks -/

section Blocks

variable {name : Option String} {limit : Nat} {loop : LoopHeader} {body : Render Unit} {shown : String}

/-- A level for an element without a name takes nothing of the element. -/
theorem enterPass_of_unnamed (h : name.getD "" = "") (v : Value) (s : Session) :
    enterPass name v s = .ok () { s with scope := s.scope.enter } := by
  rw [enterPass, bind_of_ok (modifyScope_apply _ s), h]
  rfl

theorem enterPass_of_ok (h : name.getD "" ≠ "") (hv : asText v s.machine = .ok shown m) :
    enterPass name v s =
      .ok () { s with scope := s.scope.passing (name.getD "") v shown, machine := m } := by
  have hname : (!(name.getD "").isEmpty) = true := by simpa using h
  have hadd : (s.scope.enter.bind (name.getD "") v).addPlaceholder (name.getD "") v s.machine =
      .ok (s.scope.passing (name.getD "") v shown) m := by
    rw [Scope.addPlaceholder, bind_of_ok hv]
    rfl
  have hbind : modifyScope (·.bind (name.getD "") v) { s with scope := s.scope.enter } =
      .ok () { s with scope := s.scope.enter.bind (name.getD "") v } := rfl
  have hact := act_of_ok (s := { s with scope := s.scope.enter.bind (name.getD "") v }) hadd
  rw [enterPass, bind_of_ok (modifyScope_apply _ s), if_pos hname, bind_of_ok hbind,
    bind_of_ok (currentScope_apply _), bind_of_ok hact]
  rfl

/-- Where an element has no text its level stays open. -/
theorem enterPass_of_error (h : name.getD "" ≠ "") (hv : asText v s.machine = .error f m) :
    enterPass name v s =
      .error (.failed f)
        { s with scope := s.scope.enter.bind (name.getD "") v, machine := m } := by
  have hname : (!(name.getD "").isEmpty) = true := by simpa using h
  have hadd : (s.scope.enter.bind (name.getD "") v).addPlaceholder (name.getD "") v s.machine =
      .error f m := by
    rw [Scope.addPlaceholder, bind_of_error hv]
  have hbind : modifyScope (·.bind (name.getD "") v) { s with scope := s.scope.enter } =
      .ok () { s with scope := s.scope.enter.bind (name.getD "") v } := rfl
  have hact := act_of_error (s := { s with scope := s.scope.enter.bind (name.getD "") v }) hadd
  rw [enterPass, bind_of_ok (modifyScope_apply _ s), if_pos hname, bind_of_ok hbind,
    bind_of_ok (currentScope_apply _), bind_of_error hact]

theorem blockNode_of_once (h : loop.expression = none) :
    blockNode e limit loop body = nested none .none body := by
  rw [blockNode, h]

theorem blockNode_of_ok (h : loop.expression = some text)
    (hv : s.scope.evaluate e text s.machine = .ok v m) :
    blockNode e limit loop body s =
      (act (elementsOf v) >>= fun r => passes loop r body limit none) { s with machine := m } := by
  rw [blockNode, h]
  show (currentScope >>= _) s = _
  rw [bind_of_ok (currentScope_apply s), bind_of_ok (attempt_of_ok hv)]

theorem blockNode_of_error (h : loop.expression = some text)
    (hv : s.scope.evaluate e text s.machine = .error f m) :
    blockNode e limit loop body s =
      .ok () (recorded (loop.shown ++ ": " ++ f.describe) { s with machine := m }) := by
  rw [blockNode, h]
  show (currentScope >>= _) s = _
  rw [bind_of_ok (currentScope_apply s), bind_of_ok (attempt_of_error hv)]
  rfl

/-- A block has no further pass when its elements are used up. -/
theorem passes_of_none {r : Ref} {fuel : Nat} {previous : Option (List String)}
    (h : next r s.machine = .ok none m) :
    passes loop r body (fuel + 1) previous s = .ok () { s with machine := m } := by
  rw [passes, bind_of_ok (act_of_ok h)]
  rfl

theorem passes_of_some {r : Ref} {fuel : Nat} {previous : Option (List String)}
    (h : next r s.machine = .ok (some v) m) :
    passes loop r body (fuel + 1) previous s =
      (pass loop body previous v >>= passes loop r body fuel) { s with machine := m } := by
  rw [passes, bind_of_ok (act_of_ok h)]

end Blocks

end Render

end Stencil
