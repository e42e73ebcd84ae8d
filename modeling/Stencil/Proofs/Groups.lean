import Stencil.Proofs.Balance
import Stencil.Proofs.Stops
/-!
# Stencil.Proofs.Groups -- the rules in force as a list of groups

The rules of a scope are kept in two stages: there is a frame for each level, and in each frame
there are groups, of which the last takes further rules. What is told of them is a plain list, of
the groups that hold rules. The two agree whatever has been done with the scope: levels of bindings
and of rules go together, and only the last group of a frame can be without rules. So a line that
goes from frame to frame fares as if it went along the list.
-/

namespace Stencil

open Stencil.Expr Render

/-! ## What can be done with a scope -/

/-- What can be done with a scope while a template is rendered. -/
inductive Operation where
  | newGroup
  | add (r : Rule)
  | normalizeSpaces
  /-- Send a line through the rules. -/
  | filter (text : String)
  /-- Execute a statement. -/
  | execute (text : String)
  /-- Enter a pass. -/
  | enter (name : Option String) (v : Value)
  /-- Leave the innermost pass, whose body may have ended or failed. -/
  | leave

/-- A session in the middle of passes, and how many of them there are to leave. -/
structure Underway where
  session : Session
  passes : Nat := 0

namespace Underway

/-- The scope as it is. -/
def scope (u : Underway) : Scope := u.session.scope

/-- Change the scope. -/
def change (u : Underway) (f : Scope → Scope) : Underway :=
  { u with session := { u.session with scope := f u.session.scope } }

/-- Do something with the scope. -/
def perform (e : Evaluator) (u : Underway) : Operation → Underway
  | .newGroup => u.change Scope.newGroup
  | .add r => u.change fun s => s.add r
  | .normalizeSpaces => u.change Scope.normalizeSpaces
  | .filter text => { u with session := ended (filterLine e text u.session) }
  | .execute text => { u with session := ended (executeNode e text u.session) }
  | .enter name v =>
    match enterPass name v u.session with
    | .ok _ s => ⟨s, u.passes + 1⟩
    -- What could not be entered is not left, though its level is there.
    | .error _ s => ⟨s, u.passes⟩
  | .leave =>
    match u.passes with
    | 0 => u
    | n + 1 => { u.change Scope.leave with passes := n }

/-- Do several things with the scope, one after the other. -/
def performAll (e : Evaluator) (u : Underway) (ops : List Operation) : Underway :=
  ops.foldl (perform e) u

/-- A new scope with bindings of its own. -/
def start (l : Layer) (m : Machine) : Underway := ⟨{ scope := .ofLayer l, machine := m }, 0⟩

end Underway

/-- Rendering a body in a level of its own is entering, what the body does, and leaving, also where
the body fails. -/
theorem Render.ended_nested {α : Type} {name : Option String} {v : Value} {body : Render α}
    {s t : Session} (h : enterPass name v s = .ok () t) :
    ended (nested name v body s) =
      { ended (body t) with scope := (ended (body t)).scope.leave } := by
  rw [nested, bind_of_ok h]
  cases hbody : body t with
  | ok x u => rw [ensuring_of_ok hbody, ended_ok, ended_ok]
  | error q u => rw [ensuring_of_error hbody, ended_error, ended_error]

/-! ## What stays true of groups -/

/-- Only the last group of a frame can be without rules. -/
def Frame.Settled (f : Frame) : Prop := ∀ g ∈ f.earlier, g ≠ []

namespace Frame.Settled

variable {f : Frame}

theorem empty : ({} : Frame).Settled := fun _ h => nomatch h

theorem newGroup (h : f.Settled) : f.newGroup.Settled := by
  by_cases hcurrent : f.current.isEmpty = true
  · rwa [Frame.newGroup, if_pos hcurrent]
  · rw [Frame.newGroup, if_neg hcurrent]
    intro g hg
    rcases List.mem_append.mp hg with hg | hg
    · exact h g hg
    · rw [List.mem_singleton.mp hg]
      simpa using hcurrent

theorem add (h : f.Settled) (r : Rule) : (f.add r).Settled := h

theorem addAlone (h : f.Settled) (r : Rule) : (f.addAlone r).Settled := h.newGroup.add r

theorem foldl_addAlone (h : f.Settled) (rules : List Rule) :
    (rules.foldl Frame.addAlone f).Settled := by
  induction rules generalizing f with
  | nil => exact h
  | cons r rules ih => exact ih (h.addAlone r)

/-- The current group is the last, and the others hold rules. -/
theorem groups (h : f.Settled) :
    f.groups.getLast? = some f.current ∧ ∀ g ∈ f.groups.dropLast, g ≠ [] := by
  rw [Frame.groups, List.getLast?_concat, List.dropLast_concat]
  exact ⟨rfl, h⟩

end Frame.Settled

/-- Levels of bindings and of rules go together, and the frames are settled. -/
structure Scope.Settled (s : Scope) : Prop where
  layers : s.bindings.layers.length = s.depth + 1
  frames : ∀ f ∈ s.frames, f.Settled

namespace Scope.Settled

variable {s t : Scope}

theorem ofLayer (l : Layer) : (Scope.ofLayer l).Settled where
  layers := rfl
  frames := by
    intro f hf
    rw [List.mem_singleton.mp hf]
    exact .empty

/-- What only changes the innermost level keeps a scope settled. -/
theorem of_innermost (h : s.Settled) (houter : t.bindings.outer = s.bindings.outer)
    (henclosing : t.enclosing = s.enclosing) (hframe : t.frame.Settled) : t.Settled where
  layers := by
    have hlayers := h.layers
    rw [Scope.depth, Bindings.layers, List.length_cons] at hlayers ⊢
    rwa [houter, henclosing]
  frames := by
    intro f hf
    rcases List.mem_cons.mp hf with rfl | hf
    · exact hframe
    · exact h.frames f (List.mem_cons_of_mem _ (henclosing ▸ hf))

theorem frame (h : s.Settled) : s.frame.Settled := h.frames s.frame (List.mem_cons_self ..)

theorem enter (h : s.Settled) : s.enter.Settled where
  layers := by
    show s.bindings.layers.length + 1 = s.frames.length + 1
    rw [h.layers]
    rfl
  frames := by
    intro f hf
    rcases List.mem_cons.mp hf with rfl | hf
    · exact .empty
    · exact h.frames f hf

/-- A frame around the innermost one comes with a layer around the innermost one. -/
theorem exists_around (h : s.Settled) (hdepth : 0 < s.depth) :
    ∃ l ls f fs, s.bindings.outer = l :: ls ∧ s.enclosing = f :: fs := by
  obtain ⟨f, fs, hframes⟩ := List.exists_cons_of_length_pos hdepth
  have hlayers : s.bindings.outer.length = s.depth := Nat.succ.inj h.layers
  obtain ⟨l, ls, houter⟩ := List.exists_cons_of_length_pos (hlayers ▸ hdepth)
  exact ⟨l, ls, f, fs, houter, hframes⟩

/-- Where there is a level around the innermost one, leaving closes exactly one level. -/
theorem leave (h : s.Settled) (hdepth : 0 < s.depth) :
    s.leave.Settled ∧ s.leave.depth + 1 = s.depth := by
  obtain ⟨l, ls, f, fs, houter, henclosing⟩ := h.exists_around hdepth
  have hlayers := h.layers
  have hframes : ∀ g ∈ f :: fs, g.Settled := fun g hg =>
    h.frames g (List.mem_cons_of_mem _ (henclosing ▸ hg))
  rw [Bindings.layers, houter, Scope.depth, henclosing] at hlayers
  rw [Scope.leave, houter, henclosing, Scope.depth, Scope.depth, henclosing]
  exact ⟨⟨Nat.succ.inj hlayers, hframes⟩, rfl⟩

end Scope.Settled

/-! ## What stays true underway -/

/-- What holds of every session underway. -/
structure Underway.Settled (u : Underway) : Prop where
  scope : u.scope.Settled
  /-- There is a level to leave for each pass. -/
  passes : u.passes ≤ u.scope.depth

namespace Underway.Settled

variable {e : Evaluator} {u : Underway}

theorem start (l : Layer) (m : Machine) : (Underway.start l m).Settled where
  scope := .ofLayer l
  passes := Nat.le_refl 0

/-- What only changes the innermost level keeps a session settled. -/
theorem of_innermost (h : u.Settled) {s : Session}
    (houter : s.scope.bindings.outer = u.scope.bindings.outer)
    (henclosing : s.scope.enclosing = u.scope.enclosing) (hframe : s.scope.frame.Settled) :
    (⟨s, u.passes⟩ : Underway).Settled where
  scope := h.scope.of_innermost houter henclosing hframe
  passes := by
    show u.passes ≤ s.scope.enclosing.length
    rw [henclosing]
    exact h.passes

theorem filter (h : u.Settled) (text : String) : (u.perform e (.filter text)).Settled := by
  rw [perform]
  cases hrun : u.session.scope.filterOrFail e text u.session.machine with
  | ok o m =>
    rw [filterLine_of_ok hrun]
    exact h.of_innermost rfl rfl h.scope.frame
  | error f m =>
    rw [filterLine_of_error hrun]
    exact h.of_innermost rfl rfl h.scope.frame

theorem execute (h : u.Settled) (text : String) : (u.perform e (.execute text)).Settled := by
  rw [perform]
  cases hrun : e.execute u.session.scope.bindings text u.session.machine with
  | ok q m =>
    obtain ⟨v, inner⟩ := q
    rw [executeNode_of_ok hrun]
    exact h.of_innermost rfl rfl h.scope.frame
  | error f m =>
    rw [executeNode_of_error hrun]
    exact h.of_innermost rfl rfl h.scope.frame

/-- Entering opens a level of both kinds, also where it fails; the level of an element with a name
has a rule in a group of its own. -/
theorem enter (h : u.Settled) (name : Option String) (v : Value) :
    (u.perform e (.enter name v)).Settled := by
  have hlevel : u.scope.enter.Settled := h.scope.enter
  have hpasses : u.passes + 1 ≤ u.scope.enter.depth := Nat.succ_le_succ h.passes
  rw [perform]
  by_cases hname : name.getD "" = ""
  · rw [enterPass_of_unnamed hname]
    exact ⟨hlevel, hpasses⟩
  · cases hv : asText v u.session.machine with
    | ok shown m =>
      rw [enterPass_of_ok hname hv]
      exact ⟨hlevel.of_innermost rfl rfl (Frame.Settled.empty.add _).newGroup, hpasses⟩
    | error f m =>
      rw [enterPass_of_error hname hv]
      exact ⟨hlevel.of_innermost rfl rfl .empty, Nat.le_of_succ_le hpasses⟩

theorem leave (h : u.Settled) : (u.perform e .leave).Settled := by
  obtain ⟨session, passes⟩ := u
  cases passes with
  | zero => exact h
  | succ n =>
    have hle : n + 1 ≤ session.scope.depth := h.passes
    obtain ⟨hscope, hdepth⟩ := h.scope.leave (Nat.lt_of_lt_of_le (Nat.succ_pos n) hle)
    refine ⟨hscope, ?_⟩
    show n ≤ session.scope.leave.depth
    have hdepth' : session.scope.leave.depth + 1 = session.scope.depth := hdepth
    omega

/-- Whatever is done with a scope, its session stays settled. -/
theorem perform (h : u.Settled) (op : Operation) : (u.perform e op).Settled := by
  cases op with
  | newGroup => exact h.of_innermost rfl rfl h.scope.frame.newGroup
  | add r => exact h.of_innermost rfl rfl (h.scope.frame.add r)
  | normalizeSpaces =>
    refine h.of_innermost ?_ ?_ ?_
    · rw [Scope.normalizeSpaces, Scope.foldl_addAlone]
      rfl
    · rw [Scope.normalizeSpaces, Scope.foldl_addAlone]
      rfl
    · rw [Scope.normalizeSpaces, Scope.foldl_addAlone]
      exact (h.scope.frame.foldl_addAlone Scope.spacing).newGroup
  | filter text => exact h.filter text
  | execute text => exact h.execute text
  | enter name v => exact h.enter name v
  | leave => exact h.leave

theorem performAll (h : u.Settled) (ops : List Operation) : (u.performAll e ops).Settled := by
  induction ops generalizing u with
  | nil => exact h
  | cons op ops ih => exact ih (h.perform op)

end Underway.Settled

/-! ## One list of groups -/

/-- Groups that are gone through one after the other are folded from the left. -/
theorem applyAll_eq_foldlM (e : Evaluator) (b : Bindings) (gs : List (List Rule)) (o : Outcome) :
    Substitution.applyAll e b (gs.map groupOf) o =
      gs.foldlM (fun o g => (groupOf g).apply e b o) o := by
  induction gs generalizing o with
  | nil => rfl
  | cons g gs ih =>
    rw [applyAll_groups_cons, List.foldlM_cons]
    congr
    funext o
    exact ih o

/-- The rules of a scope are as good as the list of its groups. -/
structure Scope.Listed (s : Scope) (e : Evaluator) : Prop where
  /-- Layers of bindings and frames of rules go together. -/
  layers : s.bindings.layers.length = s.depth + 1
  /-- The current group of a frame is its last. -/
  current : ∀ f ∈ s.frames, f.groups.getLast? = some f.current
  /-- The other groups of a frame hold rules. -/
  others : ∀ f ∈ s.frames, ∀ g ∈ f.groups.dropLast, g ≠ []
  /-- Where no pattern fails, a text fares as the groups that hold rules make it fare one after the
  other. -/
  filter : ∀ text m, s.PatternsHold e text m →
    ∃ o m', s.groups.foldlM (fun o g => (groupOf g).apply e s.bindings o) (Outcome.initial text) m =
        .ok o m' ∧
      s.filter e text m = .ok (o, s) m'

/-- **Whatever has been done with a scope, its rules are as good as the list of its groups.** It
makes no difference how passes have been entered and left, nor whether that has failed. -/
theorem Underway.listed_performAll (e : Evaluator) (l : Layer) (m : Machine)
    (ops : List Operation) : ((start l m).performAll e ops).scope.Listed e := by
  have hsettled := ((Settled.start l m).performAll (e := e) ops).scope
  refine ⟨hsettled.layers, fun f hf => (hsettled.frames f hf).groups.1,
    fun f hf => (hsettled.frames f hf).groups.2, ?_⟩
  intro text m₁ hpatterns
  obtain ⟨o, m', hrun⟩ := hpatterns.exists_filterOrFail
  refine ⟨o, m', ?_, Scope.filter_of_ok hrun⟩
  rwa [Scope.filterOrFail_eq_groups, applyAll_eq_foldlM] at hrun

end Stencil
