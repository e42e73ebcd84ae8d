import Stencil.Proofs.Errors
/-!
# Stencil.Proofs.Pulling -- taking some of the lines

The lines of a tree are rendered as they are taken. A reader that takes only some of them must find
the same lines, each with as many errors recorded before it, as one that takes them all, and stopping
must not record anything. This is shown step by step: what an action hands out when all lines are
wanted decides how it ends when fewer are.
-/

namespace Stencil

open Stencil.Expr Render

/-- The session of a reader that takes `k + 1` more lines. -/
def Session.taking (k : Nat) (s : Session) : Session := { s with wanted := some (k + 1) }

/-- The result of an action with its state changed. -/
def leftIn {ε σ α : Type} (g : σ → σ) : EStateM.Result ε σ α → EStateM.Result ε σ α
  | .ok a s => .ok a (g s)
  | .error e s => .error e (g s)

theorem ended_leftIn {ε σ α : Type} (g : σ → σ) (r : EStateM.Result ε σ α) :
    ended (leftIn g r) = g (ended r) := by
  cases r <;> rfl

theorem Render.ensuring_apply {α : Type} (body : Render α) (g : Scope → Scope) (s : Session) :
    ensuring body g s = leftIn (fun t => { t with scope := g t.scope }) (body s) := by
  cases hrun : body s with
  | ok x t => exact ensuring_of_ok hrun
  | error h t => exact ensuring_of_error hrun

/-- An action hands out `new`. It does not close of its own accord; a reader that takes no line more
than that only finds its count lowered; one that takes fewer closes the action at its last line, with
the errors of that line. -/
structure Paced {α : Type} (a : Render α) (s : Session) (new : List Line) : Prop where
  lines : (ended (a s)).lines.toList = s.lines.toList ++ new
  wanted : (ended (a s)).wanted = none
  open_ : ∀ t, a s ≠ .error .closed t
  enough : ∀ k, new.length ≤ k →
    a (s.taking k) = leftIn (Session.taking (k - new.length)) (a s)
  cut : ∀ k (h : k < new.length), ∃ t, a (s.taking k) = .error .closed t ∧
    t.lines.toList = s.lines.toList ++ new.take (k + 1) ∧ t.scope.errors.length = new[k].mark

/-- Rendering that hands out some lines, wherever all are wanted. -/
def Lazy {α : Type} (a : Render α) : Prop := ∀ s, s.wanted = none → ∃ new, Paced a s new

/-- A session after steps that hand out nothing, with any reader. -/
def Session.moved (s : Session) (scope : Scope) (machine : Machine) (reports : List Report)
    (wanted : Option Nat) : Session :=
  { s with scope := scope, machine := machine, reports := reports, wanted := wanted }

/-- Rendering that hands out nothing, does not close and does not look at the reader. -/
def Silent {α : Type} (a : Render α) : Prop :=
  ∀ s : Session, ∃ scope machine reports,
    (∃ x, ∀ w, a { s with wanted := w } = .ok x (s.moved scope machine reports w)) ∨
    ∃ h, h ≠ .closed ∧ ∀ w, a { s with wanted := w } = .error h (s.moved scope machine reports w)

section Steps

variable {α β : Type}

namespace Silent

theorem open_ {a : Render α} (h : Silent a) (s t : Session) : a s ≠ .error .closed t := by
  intro hclosed
  obtain ⟨scope, machine, reports, ⟨x, hx⟩ | ⟨q, hq, hx⟩⟩ := h s
  · cases (hx s.wanted).symm.trans hclosed
  · cases (hx s.wanted).symm.trans hclosed
    exact hq rfl

theorem lazy {a : Render α} (h : Silent a) : Lazy a := by
  intro s hall
  have hself : s = { s with wanted := none } := by rw [← hall]
  -- Nothing is handed out, so every reader wants more lines than there are.
  obtain ⟨scope, machine, reports, ⟨x, hx⟩ | ⟨q, hq, hx⟩⟩ := h s
  · have hs : a s = .ok x (s.moved scope machine reports none) := by
      rw [← hx none, ← hself]
    refine ⟨[], ?_, ?_, ?_, fun k _ => ?_, fun k hk => absurd hk (Nat.not_lt_zero k)⟩
    · rw [hs, List.append_nil]
      rfl
    · rw [hs]
      rfl
    · exact open_ h s
    · rw [hs]
      exact hx (some (k + 1))
  · have hs : a s = .error q (s.moved scope machine reports none) := by
      rw [← hx none, ← hself]
    refine ⟨[], ?_, ?_, ?_, fun k _ => ?_, fun k hk => absurd hk (Nat.not_lt_zero k)⟩
    · rw [hs, List.append_nil]
      rfl
    · rw [hs]
      rfl
    · exact open_ h s
    · rw [hs]
      exact hx (some (k + 1))

theorem pure (x : α) : Silent (pure x) :=
  fun s => ⟨s.scope, s.machine, s.reports, .inl ⟨x, fun _ => rfl⟩⟩

theorem bind {a : Render α} {c : α → Render β} (ha : Silent a) (hc : ∀ x, Silent (c x)) :
    Silent (a >>= c) := by
  intro s
  obtain ⟨scope, machine, reports, ⟨x, hx⟩ | ⟨q, hq, hx⟩⟩ := ha s
  · obtain ⟨scope', machine', reports', ⟨y, hy⟩ | ⟨q, hq, hy⟩⟩ :=
      hc x (s.moved scope machine reports none)
    · exact ⟨scope', machine', reports', .inl ⟨y, fun w => (bind_of_ok (hx w)).trans (hy w)⟩⟩
    · exact ⟨scope', machine', reports', .inr ⟨q, hq, fun w => (bind_of_ok (hx w)).trans (hy w)⟩⟩
  · exact ⟨scope, machine, reports, .inr ⟨q, hq, fun w => bind_of_error (hx w)⟩⟩

theorem endless : Silent (throw .endless : Render Unit) :=
  fun s => ⟨s.scope, s.machine, s.reports, .inr ⟨.endless, nofun, fun _ => rfl⟩⟩

theorem currentScope : Silent currentScope :=
  fun s => ⟨s.scope, s.machine, s.reports, .inl ⟨s.scope, fun _ => rfl⟩⟩

theorem modifyScope (g : Scope → Scope) : Silent (modifyScope g) :=
  fun s => ⟨g s.scope, s.machine, s.reports, .inl ⟨(), fun _ => rfl⟩⟩

theorem report (r : Reporter) (l : Level) (message : String) : Silent (report r l message) :=
  fun s => ⟨s.scope, s.machine, ⟨r, l, message⟩ :: s.reports, .inl ⟨(), fun _ => rfl⟩⟩

theorem act (a : Act α) : Silent (act a) := by
  intro s
  cases h : a s.machine with
  | ok v m => exact ⟨s.scope, m, s.reports, .inl ⟨v, fun w => act_of_ok h⟩⟩
  | error f m => exact ⟨s.scope, m, s.reports, .inr ⟨.failed f, nofun, fun w => act_of_error h⟩⟩

theorem attempt (a : Act α) : Silent (attempt a) := by
  intro s
  cases h : a s.machine with
  | ok v m => exact ⟨s.scope, m, s.reports, .inl ⟨_, fun w => attempt_of_ok h⟩⟩
  | error f m => exact ⟨s.scope, m, s.reports, .inl ⟨_, fun w => attempt_of_error h⟩⟩

theorem stepwise : Stepwise @Silent where
  pure := pure
  bind := bind
  act := act
  attempt := attempt
  currentScope := currentScope
  modifyScope := modifyScope
  report := report

/-- A body whose lines are collected hands out nothing itself: its reader takes them all. -/
theorem collecting {body : Render Unit} (hbody : Lazy body) : Silent (collecting body) := by
  intro s
  obtain ⟨new, hnew⟩ := hbody (apart s) rfl
  cases hrun : body (apart s) with
  | ok x t =>
    exact ⟨t.scope, t.machine, t.reports, .inl ⟨_, fun w => collecting_of_ok hrun⟩⟩
  | error q t =>
    refine ⟨t.scope, t.machine, t.reports, .inr ⟨q, ?_, fun w => collecting_of_error hrun⟩⟩
    rintro rfl
    exact hnew.open_ t hrun

end Silent

namespace Paced

variable {s t : Session} {new : List Line}

/-- Two actions one after the other hand out what the first hands out and then what the second does. -/
theorem bind_of_ok {a : Render α} {c : α → Render β} {x : α} {more : List Line}
    (ha : Paced a s new) (hrun : a s = .ok x t) (hc : Paced (c x) t more) :
    Paced (a >>= c) s (new ++ more) := by
  have hbind : (a >>= c) s = c x t := Stencil.bind_of_ok hrun
  have hlines : t.lines.toList = s.lines.toList ++ new := by
    have := ha.lines
    rwa [hrun] at this
  refine ⟨?_, ?_, ?_, ?_, ?_⟩
  · rw [hbind, hc.lines, hlines, List.append_assoc]
  · rw [hbind, hc.wanted]
  · intro u
    rw [hbind]
    exact hc.open_ u
  -- What the reader still wants after the first action is enough for the second.
  · intro k hk
    rw [List.length_append] at hk
    have hleft := ha.enough k (by omega)
    rw [hrun] at hleft
    rw [Stencil.bind_of_ok hleft, hbind, hc.enough (k - new.length) (by omega), List.length_append,
      Nat.sub_sub]
  · intro k hk
    rw [List.length_append] at hk
    by_cases hnew : k < new.length
    -- The first action is closed, and the second does not begin.
    · obtain ⟨u, hu, hulines, hmark⟩ := ha.cut k hnew
      refine ⟨u, bind_of_error hu, ?_, ?_⟩
      · rw [hulines, List.take_append_of_le_length (by omega)]
      · rw [hmark, List.getElem_append_left hnew]
    -- The second action is closed, by a reader that has taken all lines of the first.
    · have hleft := ha.enough k (by omega)
      rw [hrun] at hleft
      obtain ⟨u, hu, hulines, hmark⟩ := hc.cut (k - new.length) (by omega)
      refine ⟨u, ?_, ?_, ?_⟩
      · rw [Stencil.bind_of_ok hleft, hu]
      · rw [hulines, hlines, List.append_assoc, List.take_append,
          List.take_of_length_le (by omega : new.length ≤ k + 1),
          show k + 1 - new.length = k - new.length + 1 by omega]
      · rw [hmark, List.getElem_append_right (by omega)]

/-- Where the first of two actions fails there is no second. -/
theorem bind_of_failed {a : Render α} {c : α → Render β} {h : Halt} (ha : Paced a s new)
    (hrun : a s = .error h t) : Paced (a >>= c) s new := by
  have hbind : (a >>= c) s = .error h t := bind_of_error hrun
  have hlines := ha.lines
  have hwanted := ha.wanted
  rw [hrun] at hlines hwanted
  refine ⟨?_, ?_, ?_, ?_, ?_⟩
  · rw [hbind]
    exact hlines
  · rw [hbind]
    exact hwanted
  · intro u hu
    cases hbind.symm.trans hu
    exact ha.open_ _ hrun
  · intro k hk
    have hleft := ha.enough k hk
    rw [hrun] at hleft
    rw [hbind, bind_of_error hleft]
    rfl
  · intro k hk
    obtain ⟨u, hu, hrest⟩ := ha.cut k hk
    exact ⟨u, bind_of_error hu, hrest⟩

end Paced

namespace Lazy

theorem bind {a : Render α} {c : α → Render β} (ha : Lazy a) (hc : ∀ x, Lazy (c x)) :
    Lazy (a >>= c) := by
  intro s hall
  obtain ⟨new, hnew⟩ := ha s hall
  cases hrun : a s with
  | ok x t =>
    have hwanted := hnew.wanted
    rw [hrun] at hwanted
    obtain ⟨more, hmore⟩ := hc x t hwanted
    exact ⟨new ++ more, hnew.bind_of_ok hrun hmore⟩
  | error h t => exact ⟨new, hnew.bind_of_failed hrun⟩

/-- One line is handed out, and a reader of one line closes rendering at it. -/
theorem emit (text : String) : Lazy (emit text) := by
  intro s hall
  have hrun := emit_of_all text hall
  refine ⟨[⟨text, s.scope.errors.length⟩], ?_, ?_, ?_, fun k hk => ?_, fun k hk => ?_⟩
  · rw [hrun]
    exact Array.toList_push
  · rw [hrun, ended_ok, handed, hall]
    rfl
  · rw [hrun]
    exact fun _ => nofun
  · obtain ⟨j, rfl⟩ : ∃ j, k = j + 1 := ⟨k - 1, by simp at hk; omega⟩
    rw [hrun, emit_apply, if_neg (by simp [Session.taking])]
    rfl
  · obtain rfl : k = 0 := by simpa using hk
    refine ⟨handed text (s.taking 0), ?_, Array.toList_push, rfl⟩
    rw [emit_apply, if_pos (by simp [Session.taking])]

/-- Leaving a level changes neither what has been handed out nor what has been recorded. -/
theorem leaving {body : Render α} (hbody : Lazy body) : Lazy (ensuring body Scope.leave) := by
  intro s hall
  obtain ⟨new, hnew⟩ := hbody s hall
  refine ⟨new, ?_, ?_, fun t ht => ?_, fun k hk => ?_, fun k hk => ?_⟩
  · rw [ensuring_apply, ended_leftIn]
    exact hnew.lines
  · rw [ensuring_apply, ended_leftIn]
    exact hnew.wanted
  · cases hrun : body s with
    | ok x u => cases (ensuring_of_ok hrun).symm.trans ht
    | error q u =>
      cases (ensuring_of_error hrun).symm.trans ht
      exact hnew.open_ u hrun
  · rw [ensuring_apply, ensuring_apply, hnew.enough k hk]
    cases body s <;> rfl
  · obtain ⟨t, ht, hlines, hmark⟩ := hnew.cut k hk
    exact ⟨_, ensuring_of_error ht, hlines, by rw [Scope.errors_leave, hmark]⟩

theorem compositional (e : Evaluator) : Compositional e @Lazy where
  pure x := (Silent.pure x).lazy
  bind := bind
  endless := Silent.endless.lazy
  act a := (Silent.act a).lazy
  attempt a := (Silent.attempt a).lazy
  currentScope := Silent.currentScope.lazy
  report r l message := (Silent.report r l message).lazy
  recordError message := (Silent.stepwise.recordError message).lazy
  emit := emit
  filterLine text := (Silent.stepwise.filterLine e text).lazy
  executeNode text := (Silent.stepwise.executeNode e text).lazy
  perform description actions := (Silent.stepwise.perform description actions).lazy
  nested name v hbody := (Silent.stepwise.enterPass name v).lazy.bind fun _ => leaving hbody
  collecting hbody := (Silent.collecting hbody).lazy

end Lazy

end Steps

/-! ## Whole runs -/

/-- How the run of a reader that takes `k` lines compares with the full run from the same session: it
has the first lines of the full run, with the errors each of them had then. Where there are fewer
lines it is the full run. Otherwise nothing ends it but the reader, and it leaves the errors of the
last line that was taken. -/
structure Taken (k : Nat) (s : Session) (full part : Array Line × Option Halt × Session) : Prop where
  lines : part.1.toList = full.1.toList.take k
  all : full.1.size < k → part = full
  closed : k ≤ full.1.size → part.2.1 = none
  errors : ∀ i (h : i < full.1.size), k = i + 1 →
    part.2.2.scope.errors.length = full.1[i].mark
  untouched : k = 0 → part.2.2 = s

namespace Node

variable {n : Node} {e : Evaluator} {limit : Nat} {s t : Session}

theorem runWithin_of_ok (take : Option Nat) (htake : take ≠ some 0)
    (h : n.render e limit { s with lines := #[], wanted := take } = .ok () t) :
    n.runWithin limit e take s = (t.lines, none, apart t) := by
  rw [runWithin, if_neg (by simpa using htake), h]
  rfl

theorem runWithin_of_closed (take : Option Nat) (htake : take ≠ some 0)
    (h : n.render e limit { s with lines := #[], wanted := take } = .error .closed t) :
    n.runWithin limit e take s = (t.lines, none, apart t) := by
  rw [runWithin, if_neg (by simpa using htake), h]
  rfl

theorem runWithin_of_error {q : Halt} (take : Option Nat) (htake : take ≠ some 0) (hq : q ≠ .closed)
    (h : n.render e limit { s with lines := #[], wanted := take } = .error q t) :
    n.runWithin limit e take s = (t.lines, some q, apart t) := by
  rw [runWithin, if_neg (by simpa using htake), h]
  cases q with
  | closed => exact absurd rfl hq
  | failed f => rfl
  | endless => rfl

/-- The full run is told apart from how it ends by what it hands out. -/
theorem runWithin_lines {new : List Line} (h : Paced (n.render e limit) (apart s) new) :
    (n.runWithin limit e none s).1.toList = new := by
  have hlines := h.lines
  cases hrun : n.render e limit (apart s) with
  | ok x t =>
    rw [hrun] at hlines
    rw [runWithin_of_ok none nofun hrun]
    exact hlines
  | error q t =>
    have hq : q ≠ .closed := by
      rintro rfl
      exact h.open_ t hrun
    rw [hrun] at hlines
    rw [runWithin_of_error none nofun hq hrun]
    exact hlines

theorem runWithin_taken (n : Node) (e : Evaluator) (limit k : Nat) (s : Session) :
    Taken k s (n.runWithin limit e none s) (n.runWithin limit e (some k) s) := by
  obtain ⟨new, hnew⟩ := (Lazy.compositional e).render limit n (apart s) rfl
  have hfull := runWithin_lines hnew
  have hsize : (n.runWithin limit e none s).1.size = new.length := by
    rw [← hfull, Array.length_toList]
  cases k with
  | zero =>
    -- Rendering is not even begun.
    exact ⟨rfl, fun h => absurd h (Nat.not_lt_zero _), fun _ => rfl, fun _ _ hi => (nomatch hi),
      fun _ => rfl⟩
  | succ k =>
    by_cases hk : k < new.length
    · obtain ⟨t, ht, hlines, hmark⟩ := hnew.cut k hk
      have hpart : n.runWithin limit e (some (k + 1)) s = (t.lines, none, apart t) :=
        runWithin_of_closed (some (k + 1)) nofun ht
      refine ⟨?_, fun h => ?_, fun _ => ?_, fun i hi hki => ?_, nofun⟩
      · rw [hpart, hfull]
        exact hlines
      · omega
      · rw [hpart]
      · obtain rfl : k = i := Nat.succ.inj hki
        rw [hpart]
        show t.scope.errors.length = _
        simp only [hmark, ← hfull, Array.getElem_toList]
    -- There are no more lines than the reader wants: it sees the full run.
    · have hpart : n.runWithin limit e (some (k + 1)) s = n.runWithin limit e none s := by
        have hleft := hnew.enough k (by omega)
        cases hrun : n.render e limit (apart s) with
        | ok x t =>
          rw [hrun] at hleft
          rw [runWithin_of_ok none nofun hrun]
          exact (runWithin_of_ok (some (k + 1)) nofun hleft).trans rfl
        | error q t =>
          have hq : q ≠ .closed := by
            rintro rfl
            exact hnew.open_ t hrun
          rw [hrun] at hleft
          rw [runWithin_of_error none nofun hq hrun]
          exact (runWithin_of_error (some (k + 1)) nofun hq hleft).trans rfl
      refine ⟨?_, fun _ => hpart, fun h => ?_, fun i hi hki => ?_, nofun⟩
      · rw [hpart, hfull, List.take_of_length_le (by omega)]
      · omega
      · omega

end Node

end Stencil
