import Stencil.Proofs.Pulling
/-!
# Stencil.Proofs.Balance -- levels are closed as they were opened

Each pass of a block opens a level, of bindings and of rules, and a reader may stop in the middle of
any pass. Whether rendering comes to its end or is closed early, all levels that were opened are
closed again, the levels around the innermost one have not been touched, and the innermost one bears
only what statements and operations outside of all blocks have done to it, in their order.
-/

namespace Stencil

open Stencil.Expr Render

/-! ## Scopes compared by their levels -/

/-- All levels are the same. -/
structure SameLevels (s t : Scope) : Prop where
  bindings : t.bindings = s.bindings
  frame : t.frame = s.frame
  enclosing : t.enclosing = s.enclosing

/-- The levels around the innermost one are the same. -/
structure SameAround (s t : Scope) : Prop where
  outer : t.bindings.outer = s.bindings.outer
  enclosing : t.enclosing = s.enclosing

theorem SameLevels.refl (s : Scope) : SameLevels s s := ⟨rfl, rfl, rfl⟩

theorem SameLevels.trans {s t u : Scope} (h : SameLevels s t) (h' : SameLevels t u) :
    SameLevels s u :=
  ⟨h'.bindings.trans h.bindings, h'.frame.trans h.frame, h'.enclosing.trans h.enclosing⟩

theorem SameLevels.around {s t : Scope} (h : SameLevels s t) : SameAround s t :=
  ⟨by rw [h.bindings], h.enclosing⟩

theorem SameAround.trans {s t u : Scope} (h : SameAround s t) (h' : SameAround t u) :
    SameAround s u :=
  ⟨h'.outer.trans h.outer, h'.enclosing.trans h.enclosing⟩

/-- What leaves a level of which the levels around are those that were there before it was entered is
back where it was. -/
theorem SameLevels.leave {s t u : Scope} (houter : t.bindings.outer = s.bindings.layers)
    (hframes : t.enclosing = s.frames) (h : SameAround t u) : SameLevels s u.leave := by
  have houter' : u.bindings.outer = s.bindings.inner :: s.bindings.outer := h.outer.trans houter
  have hframes' : u.enclosing = s.frame :: s.enclosing := h.enclosing.trans hframes
  rw [Scope.leave, houter', hframes']
  exact ⟨rfl, rfl, rfl⟩

/-! ## How rendering ends -/

/-- Rendering has ended in a session: it is exhausted, or its reader has closed it. -/
def EndsIn {α : Type} (r : EStateM.Result Halt Session α) (t : Session) : Prop :=
  (∃ x, r = .ok x t) ∨ r = .error .closed t

section Ends

variable {α β : Type} {s t u : Session}

theorem endsIn_ok {x : α} : EndsIn (.ok x u : EStateM.Result Halt Session α) t ↔ t = u := by
  constructor
  · rintro (⟨_, ⟨⟩⟩ | ⟨⟨⟩⟩)
    rfl
  · rintro rfl
    exact .inl ⟨x, rfl⟩

theorem endsIn_error {q : Halt} :
    EndsIn (.error q u : EStateM.Result Halt Session α) t ↔ q = .closed ∧ t = u := by
  constructor
  · rintro (⟨_, ⟨⟩⟩ | ⟨⟨⟩⟩)
    exact ⟨rfl, rfl⟩
  · rintro ⟨rfl, rfl⟩
    exact .inr rfl

theorem EndsIn.ended_eq {r : EStateM.Result Halt Session α} (h : EndsIn r t) : ended r = t := by
  rcases h with ⟨x, rfl⟩ | rfl
  · rfl
  · rfl

theorem EndsIn.of_bind {a : Render α} {c : α → Render β} (h : EndsIn ((a >>= c) s) t) :
    a s = .error .closed t ∨ ∃ x u, a s = .ok x u ∧ EndsIn (c x u) t := by
  cases hrun : a s with
  | ok x u =>
    rw [bind_of_ok hrun] at h
    exact .inr ⟨x, u, rfl, h⟩
  | error q u =>
    rw [bind_of_error hrun] at h
    obtain ⟨rfl, rfl⟩ := endsIn_error.mp h
    exact .inl rfl

theorem EndsIn.of_ensuring {body : Render α} {g : Scope → Scope}
    (h : EndsIn (ensuring body g s) t) : ∃ u, EndsIn (body s) u ∧ t.scope = g u.scope := by
  cases hrun : body s with
  | ok x u =>
    rw [ensuring_of_ok hrun] at h
    obtain rfl := endsIn_ok.mp h
    exact ⟨u, endsIn_ok.mpr rfl, rfl⟩
  | error q u =>
    rw [ensuring_of_error hrun] at h
    obtain ⟨rfl, rfl⟩ := endsIn_error.mp h
    exact ⟨u, endsIn_error.mpr ⟨rfl, rfl⟩, rfl⟩

theorem EndsIn.of_collecting {body : Render Unit} (h : EndsIn (collecting body s) t) :
    ∃ u, EndsIn (body (apart s)) u ∧ t.scope = u.scope := by
  cases hrun : body (apart s) with
  | ok x u =>
    rw [collecting_of_ok hrun] at h
    obtain rfl := endsIn_ok.mp h
    exact ⟨u, endsIn_ok.mpr rfl, rfl⟩
  | error q u =>
    rw [collecting_of_error hrun] at h
    obtain ⟨rfl, rfl⟩ := endsIn_error.mp h
    exact ⟨u, endsIn_error.mpr ⟨rfl, rfl⟩, rfl⟩

/-- The level of a pass lies inside all levels that were there before, also where its element has no
text. -/
theorem enterPass_inside (name : Option String) (v : Value) (s : Session) :
    (ended (enterPass name v s)).scope.bindings.outer = s.scope.bindings.layers ∧
      (ended (enterPass name v s)).scope.enclosing = s.scope.frames := by
  by_cases hname : name.getD "" = ""
  · rw [enterPass_of_unnamed hname]
    exact ⟨rfl, rfl⟩
  · cases hv : asText v s.machine with
    | ok shown m =>
      rw [enterPass_of_ok hname hv]
      exact ⟨rfl, rfl⟩
    | error f m =>
      rw [enterPass_of_error hname hv]
      exact ⟨rfl, rfl⟩

end Ends

/-- However rendering ends, its scope stands in the relation `R` to the one it started with. -/
def Carries (R : Scope → Scope → Prop) {α : Type} (a : Render α) : Prop :=
  ∀ s t, EndsIn (a s) t → R s.scope t.scope

/-! ## What operations do to a level -/

namespace Frame

/-- Add a rule in a group of its own. -/
def addAlone (f : Frame) (r : Rule) : Frame := f.newGroup.add r

/-- Do what actions say, up to the first that fails. -/
def perform : List Action → Frame → Frame
  | [], f => f
  | .rule r :: as, f => perform as (f.addAlone r)
  | .alternative r :: as, f => perform as (f.add r)
  | .normalize .spaces :: as, f => perform as (Scope.spacing.foldl addAlone f).newGroup
  | .fail _ :: _, f => f

end Frame

theorem Scope.foldl_addAlone (rules : List Rule) (s : Scope) :
    rules.foldl addAlone s = { s with frame := rules.foldl Frame.addAlone s.frame } := by
  induction rules generalizing s with
  | nil => rfl
  | cons r rules ih => exact ih (s.addAlone r)

/-- Operations act on the rules of the innermost level, and on nothing else of the levels. -/
theorem Render.perform_frame (description : String) (actions : List Action) (s : Session) :
    ∃ t, perform description actions s = .ok () t ∧ t.scope.bindings = s.scope.bindings ∧
      t.scope.frame = s.scope.frame.perform actions ∧ t.scope.enclosing = s.scope.enclosing := by
  induction actions generalizing s with
  | nil => exact ⟨s, rfl, rfl, rfl, rfl⟩
  | cons a actions ih =>
    cases a with
    | rule r => exact ih { s with scope := s.scope.addAlone r }
    | alternative r => exact ih { s with scope := s.scope.add r }
    | normalize n =>
      -- The rules are added to the frame one after the other, and the frame is all they change.
      obtain ⟨t, hrun, hbindings, hframe, henclosing⟩ :=
        ih { s with scope := s.scope.normalizeSpaces }
      rw [Scope.normalizeSpaces, Scope.foldl_addAlone] at hbindings hframe henclosing
      exact ⟨t, hrun, hbindings, hframe, henclosing⟩
    | fail f => exact ⟨_, perform_cons_of_error rfl, rfl, rfl, rfl⟩

namespace Carries

variable {R : Scope → Scope → Prop} {α β : Type}

theorem of_ended {a : Render α} (h : ∀ s, R s.scope (ended (a s)).scope) : Carries R a := by
  intro s t hends
  rw [← hends.ended_eq]
  exact h s

theorem bind (htrans : ∀ s t u, R s t → R t u → R s u) {a : Render α} {c : α → Render β}
    (ha : Carries R a) (hc : ∀ x, Carries R (c x)) : Carries R (a >>= c) := by
  intro s t h
  rcases h.of_bind with h | ⟨x, u, hrun, h⟩
  · exact ha s t (.inr h)
  · exact htrans _ _ _ (ha s u (.inl ⟨x, hrun⟩)) (hc x u t h)

/-- Where a level is opened for a body, and closed when the body has ended, all levels are the same
afterwards, when the body keeps those around its own. -/
theorem nested {body : Render α} (name : Option String) (v : Value)
    (hbody : Carries SameAround body) : Carries SameLevels (nested name v body) := by
  intro s t h
  rcases h.of_bind with h | ⟨_, u, hrun, h⟩
  -- No line is handed out as the pass is entered, so it is not closed there.
  · exact absurd h ((Silent.stepwise.enterPass name v).open_ s t)
  · obtain ⟨houter, hframes⟩ := enterPass_inside name v s
    rw [hrun] at houter hframes
    obtain ⟨w, hw, hscope⟩ := h.of_ensuring
    rw [hscope]
    exact SameLevels.leave houter hframes (hbody u w hw)

theorem collecting {body : Render Unit} (hbody : Carries SameAround body) :
    Carries SameAround (collecting body) := by
  intro s t h
  obtain ⟨u, hu, hscope⟩ := h.of_collecting
  rw [hscope]
  exact hbody (apart s) u hu

/-- The steps of a block keep every relation that allows for the same levels and goes on from step to
step. -/
theorem enclosing (hsame : ∀ {s t}, SameLevels s t → R s t)
    (htrans : ∀ s t u, R s t → R t u → R s u) :
    Enclosing (@Carries SameAround) (@Carries R) where
  pure _ := of_ended fun s => hsame (.refl s.scope)
  bind := bind htrans
  endless := of_ended fun s => hsame (.refl s.scope)
  act a := by
    refine of_ended fun s => ?_
    cases h : a s.machine with
    | ok v m => exact act_of_ok h ▸ hsame (.refl s.scope)
    | error f m => exact act_of_error h ▸ hsame (.refl s.scope)
  attempt a := by
    refine of_ended fun s => ?_
    cases h : a s.machine with
    | ok v m => exact attempt_of_ok h ▸ hsame (.refl s.scope)
    | error f m => exact attempt_of_error h ▸ hsame (.refl s.scope)
  currentScope := of_ended fun s => hsame (.refl s.scope)
  report _ _ _ := of_ended fun s => hsame (.refl s.scope)
  recordError _ := of_ended fun s => hsame ⟨rfl, rfl, rfl⟩
  emit text := by
    refine of_ended fun s => ?_
    rw [emit_apply]
    split
    · exact hsame (.refl s.scope)
    · exact hsame (.refl s.scope)
  nested name v hbody := fun s t h => hsame (nested name v hbody s t h)
  collecting := collecting

/-- Outside of its passes a block leaves all levels as they are. -/
theorem aroundPasses : Enclosing (@Carries SameAround) (@Carries SameLevels) :=
  enclosing id fun _ _ _ => SameLevels.trans

theorem filterLine (e : Evaluator) (text : String) : Carries SameLevels (filterLine e text) := by
  refine of_ended fun s => ?_
  cases h : s.scope.filterOrFail e text s.machine with
  | ok o m => exact filterLine_of_ok h ▸ .refl s.scope
  | error f m => exact filterLine_of_error h ▸ ⟨rfl, rfl, rfl⟩

/-- Whatever a node does, the levels around the innermost one stay as they are. -/
theorem compositional (e : Evaluator) : Compositional e (@Carries SameAround) where
  toEnclosing := enclosing SameLevels.around fun _ _ _ => SameAround.trans
  filterLine text := fun s t h => (filterLine e text s t h).around
  executeNode text := by
    refine of_ended fun s => ?_
    cases h : e.execute s.scope.bindings text s.machine with
    | ok r m => exact executeNode_of_ok h ▸ ⟨rfl, rfl⟩
    | error f m => exact executeNode_of_error h ▸ ⟨rfl, rfl⟩
  perform description actions := by
    refine of_ended fun s => ?_
    obtain ⟨t, hrun, hbindings, _, henclosing⟩ := perform_frame description actions s
    rw [hrun]
    exact ⟨congrArg Bindings.outer hbindings, henclosing⟩

end Carries

/-! ## The innermost level -/

/-- The innermost level of a scope: its names and its rules. -/
structure Innermost where
  layer : Layer
  frame : Frame

def Scope.innermost (s : Scope) : Innermost := ⟨s.bindings.inner, s.frame⟩

/-- What a node outside of all blocks does to the innermost level, inside the layers `outer`:
operations act on its rules, and a statement that does not fail, on whatever machine it is executed,
leaves its layer. -/
def Node.Alters (e : Evaluator) (outer : List Layer) : Node → Innermost → Innermost → Prop
  | .operation _ actions, x, y => y = { x with frame := x.frame.perform (actions.getD []) }
  | .eval text, x, y =>
    y.frame = x.frame ∧
      ((∃ m v m', e.execute ⟨x.layer, outer⟩ text m = .ok (v, y.layer) m') ∨
        y.layer = x.layer ∧ ∃ m f m', e.execute ⟨x.layer, outer⟩ text m = .error f m')
  | _, x, y => y = x

/-- What nodes do to the innermost level one after the other. -/
inductive AlteredBy (e : Evaluator) (outer : List Layer) : List Node → Innermost → Innermost → Prop
  | nil {x : Innermost} : AlteredBy e outer [] x x
  | cons {n : Node} {ns : List Node} {x y z : Innermost} :
    n.Alters e outer x y → AlteredBy e outer ns y z → AlteredBy e outer (n :: ns) x z

theorem AlteredBy.append {e : Evaluator} {outer : List Layer} {ns ms : List Node}
    {x y z : Innermost} (h : AlteredBy e outer ns x y) (h' : AlteredBy e outer ms y z) :
    AlteredBy e outer (ns ++ ms) x z := by
  induction h with
  | nil => exact h'
  | cons hn _ ih => exact .cons hn (ih h')

theorem AlteredBy.singleton {e : Evaluator} {outer : List Layer} {n : Node} {x y : Innermost}
    (h : n.Alters e outer x y) : AlteredBy e outer [n] x y := .cons h .nil

namespace Node

mutual

/-- The leaves of a tree that are outside of all blocks, in their order. -/
def outside : Node → List Node
  | .list _ ns => outsideAll ns
  | .block _ _ => []
  | n => [n]

def outsideAll : List Node → List Node
  | [] => []
  | n :: ns => n.outside ++ outsideAll ns

end

end Node

/-- What rendering leaves of the innermost level is what the nodes `ns` have done to it; when it is
closed early, only some first ones of them. -/
structure Trails (e : Evaluator) (ns : List Node) (a : Render Unit) : Prop where
  exhausted : ∀ s t, a s = .ok () t →
    AlteredBy e s.scope.bindings.outer ns s.scope.innermost t.scope.innermost
  closed : ∀ s t, a s = .error .closed t → ∃ ms, ms <+: ns ∧
    AlteredBy e s.scope.bindings.outer ms s.scope.innermost t.scope.innermost

namespace Trails

variable {e : Evaluator} {ns ms : List Node} {a b : Render Unit}

theorem seq (ha : Trails e ns a) (hkeeps : Carries SameAround a) (hb : Trails e ms b) :
    Trails e (ns ++ ms) (a >>= fun _ => b) where
  exhausted s t h := by
    obtain ⟨_, u, hrun, hrest⟩ := bind_eq_ok_iff.mp h
    -- The second action works inside the same layers as the first.
    have hms := hb.exhausted u t hrest
    rw [(hkeeps s u (.inl ⟨(), hrun⟩)).outer] at hms
    exact (ha.exhausted s u hrun).append hms
  closed s t h := by
    rcases bind_eq_error_iff.mp h with h | ⟨_, u, hrun, hrest⟩
    · obtain ⟨ls, hprefix, hls⟩ := ha.closed s t h
      exact ⟨ls, hprefix.trans (List.prefix_append ns ms), hls⟩
    · obtain ⟨ls, hprefix, hls⟩ := hb.closed u t hrest
      rw [(hkeeps s u (.inl ⟨(), hrun⟩)).outer] at hls
      exact ⟨ns ++ ls, (List.prefix_append_right_inj ns).mpr hprefix,
        (ha.exhausted s u hrun).append hls⟩

/-- Rendering that keeps all levels leaves nothing. -/
theorem of_same (h : Carries SameLevels a) (hns : ∀ {outer x}, AlteredBy e outer ns x x) :
    Trails e ns a := by
  have hinner : ∀ s t, EndsIn (a s) t → t.scope.innermost = s.scope.innermost := by
    intro s t hends
    obtain ⟨hbindings, hframe, _⟩ := h s t hends
    rw [Scope.innermost, Scope.innermost, hbindings, hframe]
  refine ⟨fun s t hrun => ?_, fun s t hrun => ⟨ns, List.prefix_refl ns, ?_⟩⟩
  · rw [hinner s t (.inl ⟨(), hrun⟩)]
    exact hns
  · rw [hinner s t (.inr hrun)]
    exact hns

end Trails

section Rendering

variable {e : Evaluator} {limit : Nat}

/-- A statement leaves its layer, or fails and leaves everything as it is. -/
theorem Trails.executeNode (text : String) : Trails e [.eval text] (executeNode e text) where
  exhausted s t h := by
    refine .singleton ?_
    cases hrun : e.execute s.scope.bindings text s.machine with
    | ok r m =>
      obtain ⟨v, inner⟩ := r
      cases (executeNode_of_ok hrun).symm.trans h
      exact ⟨rfl, .inl ⟨s.machine, v, m, hrun⟩⟩
    | error f m =>
      cases (executeNode_of_error hrun).symm.trans h
      exact ⟨rfl, .inr ⟨rfl, s.machine, f, m, hrun⟩⟩
  closed s t h := absurd h ((Silent.stepwise.executeNode e text).open_ s t)

theorem Trails.operation (description : String) (actions : Option (List Action)) :
    Trails e [.operation description actions] (perform description (actions.getD [])) where
  exhausted s t h := by
    refine .singleton ?_
    obtain ⟨u, hrun, hbindings, hframe, _⟩ := perform_frame description (actions.getD []) s
    cases hrun.symm.trans h
    show Scope.innermost _ = _
    rw [Scope.innermost, hbindings, hframe]
    rfl
  closed s t h := absurd h ((Silent.stepwise.perform description _).open_ s t)

mutual

theorem Node.render_trails (n : Node) : Trails e n.outside (n.render e limit) := by
  have hsame := Carries.aroundPasses
  cases n with
  | list _ ns => exact Node.renderAll_trails ns
  | line text =>
    exact .of_same (hsame.bind (Carries.filterLine e text) hsame.emit) (.singleton rfl)
  | block loop ns =>
    exact .of_same
      (hsame.blockNode ((Carries.compositional e).renderAll limit ns) e limit loop) .nil
  | eval text => exact Trails.executeNode text
  | insert text indent => exact .of_same (hsame.insertNode e text indent) (.singleton rfl)
  | operation description actions => exact Trails.operation description actions
  | error message => exact .of_same (hsame.recordError message) (.singleton rfl)

theorem Node.renderAll_trails (ns : List Node) :
    Trails e (Node.outsideAll ns) (Node.renderAll e limit ns) := by
  cases ns with
  | nil => exact .of_same (Carries.of_ended fun s => .refl s.scope) .nil
  | cons n ns =>
    exact (Node.render_trails n).seq ((Carries.compositional e).render limit n)
      (Node.renderAll_trails ns)

end

end Rendering

/-! ## Prefixes and balance -/

/-- A run has closed all levels that it has opened: as many are open as before, those around the
innermost one are the same, and the innermost one bears what the leaves outside of all blocks have
done to it, or the first ones of them where the run was not exhausted. -/
structure Balanced (e : Evaluator) (n : Node) (exhausted : Prop) (s t : Scope) : Prop where
  depth : t.depth = s.depth
  layers : t.bindings.layers.length = s.bindings.layers.length
  enclosing : t.enclosing = s.enclosing
  outer : t.bindings.outer = s.bindings.outer
  innermost : ∃ ns, ns <+: n.outside ∧ (exhausted → ns = n.outside) ∧
    AlteredBy e s.bindings.outer ns s.innermost t.innermost

theorem Balanced.of_around {e : Evaluator} {n : Node} {exhausted : Prop} {s t : Scope}
    (h : SameAround s t) (hinner : ∃ ns, ns <+: n.outside ∧ (exhausted → ns = n.outside) ∧
      AlteredBy e s.bindings.outer ns s.innermost t.innermost) : Balanced e n exhausted s t where
  depth := congrArg List.length h.enclosing
  layers := congrArg (fun outer => List.length outer + 1) h.outer
  enclosing := h.enclosing
  outer := h.outer
  innermost := hinner

/-- A run that nothing but its reader ends is balanced. -/
theorem Node.runWithin_balanced {n : Node} {e : Evaluator} {limit : Nat} {take : Option Nat}
    {s t : Session} {lines : Array Line} (h : n.runWithin limit e take s = (lines, none, t)) :
    Balanced e n (take = none) s.scope t.scope := by
  by_cases htake : take = some 0
  -- A reader of no lines leaves the scope as it is.
  · rw [runWithin, if_pos (by simpa using htake)] at h
    obtain ⟨-, -, rfl⟩ := h
    exact .of_around ⟨rfl, rfl⟩ ⟨[], List.nil_prefix, fun hall => by simp [hall] at htake, .nil⟩
  · have haround := (Carries.compositional e).render limit n { s with lines := #[], wanted := take }
    have htrails : Trails e n.outside (n.render e limit) := n.render_trails
    cases hrun : n.render e limit { s with lines := #[], wanted := take } with
    | ok x u =>
      obtain ⟨-, -, rfl⟩ := (runWithin_of_ok take htake hrun).symm.trans h
      exact .of_around (haround u (.inl ⟨x, hrun⟩))
        ⟨n.outside, List.prefix_refl _, fun _ => rfl,
          htrails.exhausted { s with lines := #[], wanted := take } u hrun⟩
    | error q u =>
      cases q with
      | closed =>
        obtain ⟨-, -, rfl⟩ := (runWithin_of_closed take htake hrun).symm.trans h
        obtain ⟨ns, hprefix, hns⟩ := htrails.closed _ u hrun
        refine .of_around (haround u (.inr hrun)) ⟨ns, hprefix, ?_, hns⟩
        -- Where all lines are wanted nothing is closed.
        rintro rfl
        obtain ⟨new, hnew⟩ := (Lazy.compositional e).render limit n (apart s) rfl
        exact absurd hrun (hnew.open_ u)
      | failed f =>
        have hq : Halt.failed f ≠ .closed := by
          rintro ⟨⟩
        cases (runWithin_of_error take htake hq hrun).symm.trans h
      | endless =>
        have hq : Halt.endless ≠ .closed := by
          rintro ⟨⟩
        cases (runWithin_of_error take htake hq hrun).symm.trans h

/-- **Taking a prefix is lazy, and leaves balanced levels.** For every tree, evaluator and session,
the run of a reader that takes `k` lines has the first `k` lines of the full run, with the same errors
recorded when each of them came, and records nothing by being closed. Any run that is not ended by a
failure, exhausted or closed anywhere, is balanced. -/
theorem Node.runWithin_prefix_balanced (n : Node) (e : Evaluator) (limit k : Nat) (s : Session) :
    Taken k s (n.runWithin limit e none s) (n.runWithin limit e (some k) s) ∧
      ∀ take lines t, n.runWithin limit e take s = (lines, none, t) →
        Balanced e n (take = none) s.scope t.scope :=
  ⟨runWithin_taken n e limit k s, fun _ _ _ => runWithin_balanced⟩

end Stencil
