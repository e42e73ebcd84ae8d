import Stencil.Render
/-!
# Stencil.Proofs.Effects -- how actions compose

Every part of the library that changes a state is an action that either ends with a value and a
state or fails with a reason and a state. The lemmas below say how a sequence of two actions ends;
everything that is proved about a run of the library is put together from them, so that no other
proof has to look at how the sequence is carried out.
-/

namespace Stencil

open Stencil.Expr

variable {ε σ α β : Type}

/-! ## Sequences -/

theorem bind_of_ok {x : EStateM ε σ α} {f : α → EStateM ε σ β} {s t : σ} {a : α}
    (h : x s = .ok a t) : (x >>= f) s = f a t := by
  show EStateM.bind x f s = f a t
  rw [EStateM.bind, h]

theorem bind_of_error {x : EStateM ε σ α} {f : α → EStateM ε σ β} {s t : σ} {e : ε}
    (h : x s = .error e t) : (x >>= f) s = .error e t := by
  show EStateM.bind x f s = .error e t
  rw [EStateM.bind, h]

/-- What asks for the state first goes on with it. -/
theorem get_bind (f : σ → EStateM ε σ α) (s : σ) : (get >>= f) s = f s s := rfl

/-- Sequences with the same second part end alike where their first parts do. -/
theorem bind_congr_left {x y : EStateM ε σ α} {f : α → EStateM ε σ β} {s t : σ} (h : x s = y t) :
    (x >>= f) s = (y >>= f) t := by
  show EStateM.bind x f s = EStateM.bind y f t
  rw [EStateM.bind, EStateM.bind, h]

/-- A sequence ends well exactly when both of its parts do. -/
theorem bind_eq_ok_iff {x : EStateM ε σ α} {f : α → EStateM ε σ β} {s t : σ} {b : β} :
    (x >>= f) s = .ok b t ↔ ∃ a u, x s = .ok a u ∧ f a u = .ok b t := by
  cases h : x s with
  | ok a u =>
    rw [bind_of_ok h]
    constructor
    · exact fun hf => ⟨a, u, rfl, hf⟩
    · rintro ⟨_, _, ⟨⟩, hf⟩
      exact hf
  | error e u => simp [bind_of_error h]

/-- A sequence fails exactly when its first part does, or its second part after the first. -/
theorem bind_eq_error_iff {x : EStateM ε σ α} {f : α → EStateM ε σ β} {s t : σ} {e : ε} :
    (x >>= f) s = .error e t ↔
      x s = .error e t ∨ ∃ a u, x s = .ok a u ∧ f a u = .error e t := by
  cases h : x s with
  | ok a u =>
    rw [bind_of_ok h]
    constructor
    · exact fun hf => .inr ⟨a, u, rfl, hf⟩
    · rintro (hx | ⟨_, _, ⟨⟩, hf⟩)
      · cases hx
      · exact hf
  | error e' u => simp [bind_of_error h]

theorem run'_of_ok {x : EStateM ε σ α} {s t : σ} {a : α} (h : x s = .ok a t) :
    x.run' s = some a := by
  delta EStateM.run' EStateM.run
  rw [h]

/-- The value that an action gives can be found without the state it leaves. -/
theorem exists_of_run' {x : EStateM ε σ α} {s : σ} {a : α} (h : x.run' s = some a) :
    ∃ t, x s = .ok a t := by
  delta EStateM.run' EStateM.run at h
  cases hx : x s with
  | ok b t =>
    rw [hx] at h
    exact ⟨t, by rw [Option.some.inj h]⟩
  | error e t =>
    rw [hx] at h
    cases h

@[simp] theorem pure_apply (a : α) (s : σ) : (pure a : EStateM ε σ α) s = .ok a s := rfl

section Lists

variable {f : α → EStateM ε σ β} {a : α} {as : List α} {bs : List β} {s t : σ}

theorem mapM_cons_of_ok {b : β} {u : σ} (h : f a s = .ok b u) (hrest : as.mapM f u = .ok bs t) :
    (a :: as).mapM f s = .ok (b :: bs) t := by
  rw [List.mapM_cons, bind_of_ok h, bind_of_ok hrest]
  rfl

/-- A sequence over a list ends well only when its first part does, and then the others. -/
theorem mapM_cons_eq_ok (h : (a :: as).mapM f s = .ok bs t) :
    ∃ b u rest, f a s = .ok b u ∧ as.mapM f u = .ok rest t ∧ bs = b :: rest := by
  rw [List.mapM_cons] at h
  obtain ⟨b, u, hfirst, h⟩ := bind_eq_ok_iff.mp h
  obtain ⟨rest, v, hrest, h⟩ := bind_eq_ok_iff.mp h
  cases h
  exact ⟨b, u, rest, hfirst, hrest, rfl⟩

/-- A sequence over a list fails exactly where one of its parts does, after those before it. -/
theorem mapM_eq_error {e : ε} (h : as.mapM f s = .error e t) :
    ∃ before a after bs u, as = before ++ a :: after ∧ before.mapM f s = .ok bs u ∧
      f a u = .error e t := by
  induction as generalizing s with
  | nil => cases h
  | cons a as ih =>
    rw [List.mapM_cons] at h
    rcases bind_eq_error_iff.mp h with hfirst | ⟨b, u, hfirst, h⟩
    · exact ⟨[], a, as, [], s, rfl, rfl, hfirst⟩
    · rcases bind_eq_error_iff.mp h with hrest | ⟨rest, v, hrest, h⟩
      · obtain ⟨before, a', after, bs, v, rfl, hbefore, hfails⟩ := ih hrest
        exact ⟨a :: before, a', after, b :: bs, v, rfl, mapM_cons_of_ok hfirst hbefore, hfails⟩
      · cases h

end Lists

/-! ## Failures that are caught

The state is not taken back: what an action changed before it failed stays changed. -/

theorem tryCatch_of_ok {x : EStateM ε σ α} {f : ε → EStateM ε σ α} {s t : σ} {a : α}
    (h : x s = .ok a t) : (tryCatch x f) s = .ok a t := by
  show EStateM.tryCatch x f s = .ok a t
  unfold EStateM.tryCatch
  rw [h]

theorem tryCatch_of_error {x : EStateM ε σ α} {f : ε → EStateM ε σ α} {s t : σ} {e : ε}
    (h : x s = .error e t) : (tryCatch x f) s = f e t := by
  show EStateM.tryCatch x f s = f e t
  unfold EStateM.tryCatch
  rw [h]
  rfl

/-- The state in which an action leaves off, however it ends. -/
def ended : EStateM.Result ε σ α → σ
  | .ok _ s => s
  | .error _ s => s

@[simp] theorem ended_ok (a : α) (s : σ) : ended (.ok a s : EStateM.Result ε σ α) = s := rfl

@[simp] theorem ended_error (e : ε) (s : σ) :
    ended (.error e s : EStateM.Result ε σ α) = s := rfl

/-! ## The steps of rendering -/

namespace Render

@[simp] theorem currentScope_apply (s : Session) : currentScope s = .ok s.scope s := rfl

@[simp] theorem modifyScope_apply (f : Scope → Scope) (s : Session) :
    modifyScope f s = .ok () { s with scope := f s.scope } := rfl

/-- The session in which an error has been recorded. -/
def recorded (message : String) (s : Session) : Session :=
  { s with
    scope := s.scope.error message
    reports := ⟨.scope, .debug, "Template error: " ++ message⟩ :: s.reports }

section Acting

variable {a : Act α} {s : Session} {v : α} {f : Failure} {m : Machine}

theorem act_of_ok (h : a s.machine = .ok v m) : act a s = .ok v { s with machine := m } := by
  rw [act, h]

theorem act_of_error (h : a s.machine = .error f m) :
    act a s = .error (.failed f) { s with machine := m } := by
  rw [act, h]

theorem attempt_of_ok (h : a s.machine = .ok v m) :
    attempt a s = .ok (.ok v) { s with machine := m } := by
  rw [attempt, h]

theorem attempt_of_error (h : a s.machine = .error f m) :
    attempt a s = .ok (.error f) { s with machine := m } := by
  rw [attempt, h]

end Acting

section Ensuring

variable {body : Render α} {g : Scope → Scope} {s t : Session} {v : α} {h : Halt}

theorem ensuring_of_ok (hb : body s = .ok v t) :
    ensuring body g s = .ok v { t with scope := g t.scope } := by
  rw [ensuring, hb]

theorem ensuring_of_error (hb : body s = .error h t) :
    ensuring body g s = .error h { t with scope := g t.scope } := by
  rw [ensuring, hb]

end Ensuring

/-- The session of a body whose lines are collected. -/
def apart (s : Session) : Session := { s with lines := #[], wanted := none }

section Collecting

variable {body : Render Unit} {s t : Session} {h : Halt}

theorem collecting_of_ok (hb : body (apart s) = .ok () t) :
    collecting body s =
      .ok (t.lines.toList.map (·.text)) { t with lines := s.lines, wanted := s.wanted } := by
  rw [apart] at hb
  rw [collecting, hb]

theorem collecting_of_error (hb : body (apart s) = .error h t) :
    collecting body s = .error h { t with lines := s.lines, wanted := s.wanted } := by
  rw [apart] at hb
  rw [collecting, hb]

end Collecting

end Render

end Stencil
