import Stencil.Proofs.Groups
/-!
# Stencil.Proofs.Unwinding -- passes that are left by a failure

A pass opens a level, runs a body in it, and closes the level however the body has ended. The body
can do to its own level what it likes. It can also open passes of its own, and whether one of them
fails or not, it can go on, end, or fail in turn.

The closing covers the body, and not the opening. An element without a text is noticed when its level
is there already, and nothing closes that level. Whatever is closed from then on is the innermost
level that is found, so that each pass around closes one that is inside its own. In the end there are
all levels that were there before, as they were, and inside them one more for each pass that could
not be entered.
-/

namespace Stencil

open Stencil.Expr Render

/-! ## Bodies of passes -/

/-- Something done inside a level, that may fail and does not touch the levels around it. -/
structure Step where
  run : Render Unit
  around : ∀ s, SameAround s.scope (ended (run s)).scope

/-- The reason why an action has ended early. -/
def haltOf {α : Type} : EStateM.Result Halt Session α → Option Halt
  | .ok _ _ => none
  | .error h _ => some h

/-- The body of a pass. It ends, or fails, or does something in its level or opens a pass of its own;
then it is told how that has ended, and looks at the session before it goes on. -/
inductive Body where
  | done
  | halt (h : Halt)
  | step (a : Step) (rest : Option Halt → Session → Body)
  | within (name : Option String) (v : Value) (body : Body) (rest : Option Halt → Session → Body)

namespace Body

/-- What a body does. -/
def run : Body → Render Unit
  | done => fun s => .ok () s
  | halt h => fun s => .error h s
  | step a rest => fun s => (rest (haltOf (a.run s)) (ended (a.run s))).run (ended (a.run s))
  | within name v body rest => fun s =>
    let r := nested name v body.run s
    (rest (haltOf r) (ended r)).run (ended r)

/-- How many passes a body cannot enter. -/
def failures : Body → Session → Nat
  | done, _ => 0
  | halt _, _ => 0
  | step a rest, s => (rest (haltOf (a.run s)) (ended (a.run s))).failures (ended (a.run s))
  | within name v body rest, s =>
    let r := nested name v body.run s
    (match enterPass name v s with
      | .ok _ t => body.failures t
      | .error _ _ => 1) +
    (rest (haltOf r) (ended r)).failures (ended r)

/-- How many passes cannot be entered, of a pass with this body and of those inside it. -/
def failedEntries (name : Option String) (v : Value) (body : Body) (s : Session) : Nat :=
  match enterPass name v s with
  | .ok _ t => body.failures t
  | .error _ _ => 1

end Body

/-! ## Levels that are left open -/

/-- A list with `n` elements more at its front. -/
def Atop {α : Type} (n : Nat) (xs ys : List α) : Prop := ∃ more, more.length = n ∧ ys = more ++ xs

namespace Atop

variable {α : Type} {n k : Nat} {x y : α} {xs ys zs : List α}

theorem of_eq (h : ys = xs) : Atop 0 xs ys := ⟨[], rfl, h⟩

theorem eq (h : Atop 0 xs ys) : ys = xs := by
  obtain ⟨more, hlength, rfl⟩ := h
  rw [List.length_eq_zero_iff.mp hlength, List.nil_append]

theorem trans (h : Atop n xs ys) (h' : Atop k ys zs) : Atop (n + k) xs zs := by
  obtain ⟨more, rfl, rfl⟩ := h
  obtain ⟨further, rfl, rfl⟩ := h'
  exact ⟨further ++ more, by rw [List.length_append, Nat.add_comm],
    (List.append_assoc further more xs).symm⟩

theorem length (h : Atop n xs ys) : ys.length = xs.length + n := by
  obtain ⟨more, rfl, rfl⟩ := h
  rw [List.length_append, Nat.add_comm]

theorem ne_nil (h : Atop n (x :: xs) ys) : ys ≠ [] := by
  obtain ⟨more, -, rfl⟩ := h
  exact List.append_ne_nil_of_right_ne_nil more (List.cons_ne_nil x xs)

/-- Without the first of each there are as many more at the front. -/
theorem tail (h : Atop n (x :: xs) (y :: ys)) : Atop n xs ys := by
  obtain ⟨more, hlength, hys⟩ := h
  cases more with
  | nil => exact ⟨[], hlength, (List.cons.inj hys).2⟩
  | cons z more =>
    have hmore : ys = more ++ x :: xs := (List.cons.inj hys).2
    refine ⟨more ++ [x], by rwa [List.length_append], ?_⟩
    rw [hmore, List.append_assoc, List.singleton_append]

end Atop

/-- All levels of a scope are there, and `n` more inside them. -/
structure LeftOpen (n : Nat) (s t : Scope) : Prop where
  layers : Atop n s.bindings.layers t.bindings.layers
  frames : Atop n s.frames t.frames

/-- The levels around the innermost one are there, and `n` more inside them. -/
structure OpenAround (n : Nat) (s t : Scope) : Prop where
  outer : Atop n s.bindings.outer t.bindings.outer
  enclosing : Atop n s.enclosing t.enclosing

namespace OpenAround

variable {n k : Nat} {s t u : Scope}

theorem of_same (h : SameAround s t) : OpenAround 0 s t := ⟨.of_eq h.outer, .of_eq h.enclosing⟩

theorem trans (h : OpenAround n s t) (h' : OpenAround k t u) : OpenAround (n + k) s u :=
  ⟨h.outer.trans h'.outer, h.enclosing.trans h'.enclosing⟩

/-- Leaving closes the level that is innermost by then. -/
theorem leave (houter : t.bindings.outer = s.bindings.layers) (hframes : t.enclosing = s.frames)
    (h : OpenAround n t u) : LeftOpen n s u.leave := by
  have hlayers : Atop n s.bindings.layers u.bindings.outer := houter ▸ h.outer
  have henclosing : Atop n s.frames u.enclosing := hframes ▸ h.enclosing
  obtain ⟨l, ls, hl⟩ := List.exists_cons_of_ne_nil hlayers.ne_nil
  obtain ⟨f, fs, hf⟩ := List.exists_cons_of_ne_nil henclosing.ne_nil
  rw [hl] at hlayers
  rw [hf] at henclosing
  rw [Scope.leave, hl, hf]
  exact ⟨hlayers, henclosing⟩

end OpenAround

namespace LeftOpen

variable {n : Nat} {s t : Scope}

theorem around (h : LeftOpen n s t) : OpenAround n s t := ⟨h.layers.tail, h.frames.tail⟩

theorem depth (h : LeftOpen n s t) : t.depth = s.depth + n := by
  have hlength := h.frames.length
  rw [Scope.frames, Scope.frames, List.length_cons, List.length_cons] at hlength
  show t.enclosing.length = s.enclosing.length + n
  omega

theorem sameLevels_iff (h : LeftOpen n s t) : SameLevels s t ↔ n = 0 := by
  constructor
  · intro hsame
    have hdepth := h.depth
    rw [Scope.depth, Scope.depth, hsame.enclosing] at hdepth
    omega
  · rintro rfl
    obtain ⟨hinner, houter⟩ := List.cons.inj h.layers.eq
    obtain ⟨hframe, henclosing⟩ := List.cons.inj h.frames.eq
    have hbindings : t.bindings = s.bindings := by
      show Bindings.mk t.bindings.inner t.bindings.outer = s.bindings
      rw [hinner, houter]
    exact ⟨hbindings, hframe, henclosing⟩

end LeftOpen

/-! ## What a pass leaves -/

section Passes

variable {name : Option String} {v : Value} {s : Session}

/-- A pass can be entered unless its element is bound to a name and has no text. -/
theorem enterPass_eq_ok_iff :
    (∃ t, enterPass name v s = .ok () t) ↔
      name.getD "" = "" ∨ ∃ shown m, asText v s.machine = .ok shown m := by
  by_cases hname : name.getD "" = ""
  · exact iff_of_true ⟨_, enterPass_of_unnamed hname v s⟩ (.inl hname)
  · rw [or_iff_right hname]
    cases hv : asText v s.machine with
    | ok shown m => exact iff_of_true ⟨_, enterPass_of_ok hname hv⟩ ⟨shown, m, rfl⟩
    | error f m =>
      rw [enterPass_of_error hname hv]
      exact iff_of_false (fun ⟨_, h⟩ => nomatch h) (fun ⟨_, _, h⟩ => nomatch h)

/-- A pass leaves open what its body leaves open around itself, and its own level when it could not be
entered. -/
theorem Body.leftOpen_of_around {body : Body}
    (hbody : ∀ t, OpenAround (body.failures t) t.scope (ended (body.run t)).scope) :
    LeftOpen (body.failedEntries name v s) s.scope (ended (nested name v body.run s)).scope := by
  have hinside := enterPass_inside name v s
  rw [failedEntries]
  cases henter : enterPass name v s with
  | ok x t =>
    rw [henter] at hinside
    rw [ended_nested henter]
    exact (hbody t).leave hinside.1 hinside.2
  | error h t =>
    rw [henter] at hinside
    rw [nested, bind_of_error henter]
    obtain ⟨houter, hframes⟩ := hinside
    exact ⟨⟨[_], rfl, congrArg _ houter⟩, ⟨[_], rfl, congrArg _ hframes⟩⟩

/-- What a body leaves open around itself. -/
theorem Body.openAround (body : Body) (s : Session) :
    OpenAround (body.failures s) s.scope (ended (body.run s)).scope := by
  induction body generalizing s with
  | done => exact .of_same ⟨rfl, rfl⟩
  | halt h => exact .of_same ⟨rfl, rfl⟩
  | step a rest ih =>
    have hstep := OpenAround.of_same (a.around s)
    have hrest := hstep.trans (ih (haltOf (a.run s)) (ended (a.run s)) (ended (a.run s)))
    rwa [Nat.zero_add] at hrest
  | within name v body rest ihbody ihrest =>
    have hpass : LeftOpen (body.failedEntries name v s) _ _ := leftOpen_of_around ihbody
    exact hpass.around.trans (ihrest _ _ _)

end Passes

/-- What is left when a pass is over, however it has ended. -/
structure Unwound (name : Option String) (v : Value) (body : Body) (s t : Session) : Prop where
  /-- All levels are there that were there before, and more inside them, -/
  levels : LeftOpen (body.failedEntries name v s) s.scope t.scope
  depth : t.scope.depth = s.scope.depth + body.failedEntries name v s
  /-- so that all is as it was exactly when the pass and those inside it could be entered. -/
  restored : SameLevels s.scope t.scope ↔ body.failedEntries name v s = 0
  /-- A pass can be entered unless its element is bound to a name and has no text. -/
  entered : (∃ u, enterPass name v s = .ok () u) ↔
    name.getD "" = "" ∨ ∃ shown m, asText v s.machine = .ok shown m

/-- **A pass is unwound but for the levels that could not be entered.** -/
theorem Body.unwound (name : Option String) (v : Value) (body : Body) (s : Session) :
    Unwound name v body s (ended (nested name v body.run s)) := by
  have hlevels : LeftOpen (body.failedEntries name v s) _ _ := leftOpen_of_around body.openAround
  exact ⟨hlevels, hlevels.depth, hlevels.sameLevels_iff, enterPass_eq_ok_iff⟩

end Stencil
