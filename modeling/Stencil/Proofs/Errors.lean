import Stencil.Proofs.Composition
import Stencil.Proofs.Rendering
/-!
# Stencil.Proofs.Errors -- recorded errors stay recorded

The errors of a scope are a record of a whole run. No step of rendering takes an error back: not the
end of a level, not a body whose lines are dropped as a repetition, not a failure that ends the run.
-/

namespace Stencil

open Stencil.Expr Render

theorem Action.errors_of_apply {a : Action} {s t : Scope} (h : a.apply s = .ok t) :
    t.errors = s.errors := by
  cases a with
  | rule r =>
    obtain rfl := Except.ok.inj h
    rfl
  | alternative r =>
    obtain rfl := Except.ok.inj h
    rfl
  | normalize n =>
    obtain rfl := Except.ok.inj h
    rfl
  | fail f => cases h

theorem Scope.errors_leave (s : Scope) : s.leave.errors = s.errors := by
  rw [leave]
  split <;> rfl

/-- Rendering that keeps the errors recorded before it, and only records further ones. -/
def Grows {α : Type} (a : Render α) : Prop :=
  ∀ s, s.scope.errors <+: (ended (a s)).scope.errors

namespace Grows

variable {α β : Type}

theorem of_eq {a : Render α} (h : ∀ s, (ended (a s)).scope.errors = s.scope.errors) : Grows a :=
  fun s => (h s).symm ▸ List.prefix_refl _

theorem bind {a : Render α} {k : α → Render β} (ha : Grows a) (hk : ∀ x, Grows (k x)) :
    Grows (a >>= k) := by
  intro s
  have hleft := ha s
  cases hrun : a s with
  | ok x t =>
    rw [hrun] at hleft
    rw [bind_of_ok hrun]
    exact hleft.trans (hk x t)
  | error h t =>
    rw [hrun] at hleft
    rwa [bind_of_error hrun]

theorem recordError (message : String) : Grows (recordError message) :=
  fun _ => List.prefix_append _ _

theorem act (a : Act α) : Grows (act a) := by
  refine of_eq fun s => ?_
  cases h : a s.machine with
  | ok v m => rw [act_of_ok h, ended_ok]
  | error f m => rw [act_of_error h, ended_error]

theorem attempt (a : Act α) : Grows (attempt a) := by
  refine of_eq fun s => ?_
  cases h : a s.machine with
  | ok v m => rw [attempt_of_ok h, ended_ok]
  | error f m => rw [attempt_of_error h, ended_ok]

theorem emit (text : String) : Grows (emit text) := by
  refine of_eq fun s => ?_
  rw [emit_apply]
  split <;> rfl

theorem filterLine (e : Evaluator) (text : String) : Grows (filterLine e text) := by
  intro s
  cases h : s.scope.filterOrFail e text s.machine with
  | ok o m =>
    rw [filterLine_of_ok h]
    exact List.prefix_refl _
  | error f m =>
    rw [filterLine_of_error h]
    exact List.prefix_append _ _

theorem executeNode (e : Evaluator) (text : String) : Grows (executeNode e text) := by
  intro s
  cases h : e.execute s.scope.bindings text s.machine with
  | ok r m =>
    rw [executeNode_of_ok h]
    exact List.prefix_refl _
  | error f m =>
    rw [executeNode_of_error h]
    exact List.prefix_append _ _

theorem perform (description : String) (actions : List Action) :
    Grows (perform description actions) := by
  induction actions with
  | nil => exact of_eq fun _ => rfl
  | cons a actions ih =>
    intro s
    cases h : a.apply s.scope with
    | ok scope =>
      -- The actions that follow start from the same errors.
      rw [perform_cons_of_ok h, ← Action.errors_of_apply h]
      exact ih { s with scope := scope }
    | error f =>
      rw [perform_cons_of_error h]
      exact List.prefix_append _ _

theorem enterPass (name : Option String) (v : Value) : Grows (enterPass name v) := by
  refine of_eq fun s => ?_
  by_cases hname : name.getD "" = ""
  · rw [enterPass_of_unnamed hname]
    rfl
  · cases h : asText v s.machine with
    | ok shown m =>
      rw [enterPass_of_ok hname h]
      rfl
    | error f m =>
      rw [enterPass_of_error hname h]
      rfl

theorem leaving {body : Render α} (hbody : Grows body) : Grows (ensuring body Scope.leave) := by
  intro s
  have h := hbody s
  cases hrun : body s with
  | ok v t =>
    rw [hrun, ended_ok, ← Scope.errors_leave t.scope] at h
    rw [ensuring_of_ok hrun]
    exact h
  | error k t =>
    rw [hrun, ended_error, ← Scope.errors_leave t.scope] at h
    rw [ensuring_of_error hrun]
    exact h

theorem collecting {body : Render Unit} (hbody : Grows body) : Grows (collecting body) := by
  intro s
  have h := hbody (apart s)
  cases hrun : body (apart s) with
  | ok v t =>
    rw [hrun] at h
    rw [collecting_of_ok hrun]
    exact h
  | error k t =>
    rw [hrun] at h
    rw [collecting_of_error hrun]
    exact h

theorem compositional (e : Evaluator) : Compositional e @Grows where
  pure _ := of_eq fun _ => rfl
  bind := bind
  endless := of_eq fun _ => rfl
  act := act
  attempt := attempt
  currentScope := of_eq fun _ => rfl
  report _ _ _ := of_eq fun _ => rfl
  recordError := recordError
  emit := emit
  filterLine := filterLine e
  executeNode := executeNode e
  perform := perform
  nested name v hbody := (enterPass name v).bind fun _ => leaving hbody
  collecting := collecting

end Grows

/-- **Errors only grow.** However rendering a node ends, the errors recorded before it are kept, in
their places. -/
theorem Node.errors_prefix_render (n : Node) (e : Evaluator) (limit : Nat) (s : Session) :
    s.scope.errors <+: (ended (n.render e limit s)).scope.errors :=
  (Grows.compositional e).render limit n s

end Stencil
