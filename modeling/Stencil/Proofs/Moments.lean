import Stencil.Proofs.Alone
import Stencil.Proofs.Containment
import Stencil.Proofs.Outline
/-!
# Stencil.Proofs.Moments -- the rules in force at each moment of rendering

The rules of a scope come from pairs of a pattern and a replacement, from the normalizing of blanks
and from the placeholders of passes. `Visits` tells the moments that a run of a tree comes to, with
the scope as it is then and, beside it, the rules that have been given so far at each level that is
open. In the tree of a template the two never part: every rule stands in a group of its own, so a
line goes through the rules of its moment one after the other.
-/

namespace Stencil

open Stencil.Expr Render

/-! ## What nodes give -/

namespace Action

/-- The rules that actions give, up to the first that fails. -/
def givenBy : List Action → List Rule
  | [] => []
  | .rule r :: as => r :: givenBy as
  | .alternative r :: as => r :: givenBy as
  | .normalize .spaces :: as => Scope.spacing ++ givenBy as
  | .fail _ :: _ => []

/-- An action that gives rules in groups of their own. -/
def Separate : Action → Prop
  | rule _ | normalize _ => True
  | alternative _ | fail _ => False

/-- On the way through an action, a scope has become another and some rules have been given. -/
inductive Brings (s : Scope) : Action → Scope → List Rule → Prop
  | opened {r : Rule} : Brings s (.rule r) s.newGroup []
  | given {done rest : List Rule} :
    Scope.spacing = done ++ rest →
    Brings s (.normalize .spaces) (done.foldl Scope.addAlone s) done
  | between {done rest : List Rule} :
    Scope.spacing = done ++ rest →
    Brings s (.normalize .spaces) (done.foldl Scope.addAlone s).newGroup done

end Action

namespace Node

/-- The actions of an operation; another node has none. -/
def actions : Node → List Action
  | operation _ actions => actions.getD []
  | _ => []

/-- The rules that a node gives to its level. What stands in a block gives them to the level of its
pass, which is closed with it. -/
def given (n : Node) : List Rule := n.outside.flatMap fun k => Action.givenBy k.actions

/-- The actions of a node give rules in groups of their own. -/
def Separate (n : Node) : Prop := ∀ a ∈ n.actions, a.Separate

theorem separate_of_actions {n : Node} (h : n.actions = []) : n.Separate := by
  rw [Separate, h]
  exact List.forall_mem_nil _

end Node

/-- Actions that give rules in groups of their own do so one after the other. -/
theorem Frame.held_perform {actions : List Action} (h : ∀ a ∈ actions, a.Separate) (f : Frame) :
    (f.perform actions).held = f.held ++ alone (Action.givenBy actions) := by
  induction actions generalizing f with
  | nil => exact (List.append_nil f.held).symm
  | cons a actions ih =>
    have hrest := ih fun b hb => h b (.tail a hb)
    cases a with
    | rule r =>
      rw [perform, hrest, held_addAlone, Action.givenBy, alone_cons, List.append_assoc]
      rfl
    | normalize n =>
      rw [perform, hrest, held_newGroup, held_foldl_addAlone, Action.givenBy, alone_append,
        List.append_assoc]
    | alternative r => exact (h _ (.head actions)).elim
    | fail f => exact (h _ (.head actions)).elim

/-- So do nodes outside of all blocks. -/
theorem AlteredBy.held {e : Evaluator} {outer : List Layer} {ns : List Node} {x y : Innermost}
    (hns : ∀ n ∈ ns, n.Separate) (h : AlteredBy e outer ns x y) :
    y.frame.held = x.frame.held ++ alone (ns.flatMap fun n => Action.givenBy n.actions) := by
  induction h with
  | nil => exact (List.append_nil _).symm
  | @cons n ns x y z hn _ ih =>
    have hfirst : y.frame.held = x.frame.held ++ alone (Action.givenBy n.actions) := by
      cases n with
      | operation description actions =>
        rw [show y = _ from hn]
        exact Frame.held_perform (hns _ (.head ns)) x.frame
      | eval text => rw [hn.1]; exact (List.append_nil _).symm
      | _ => rw [show y = x from hn]; exact (List.append_nil _).symm
    rw [ih fun k hk => hns k (.tail n hk), hfirst, List.flatMap_cons, alone_append,
      List.append_assoc]

section Outside

variable {d : Nat}

mutual

theorem Node.separate_outside {n : Node} (h : ∀ p ∈ n.outline d, p.node.Separate) :
    ∀ k ∈ n.outside, k.Separate := by
  cases n with
  | list _ ns => exact Node.separate_outsideAll fun p hp => h p (.tail _ hp)
  | block _ ns => exact nofun
  | _ =>
    intro k hk
    rw [List.mem_singleton.mp hk]
    exact h ⟨d, _⟩ (.head _)

theorem Node.separate_outsideAll {ns : List Node}
    (h : ∀ p ∈ Node.outlineAll d ns, p.node.Separate) :
    ∀ k ∈ Node.outsideAll ns, k.Separate := by
  cases ns with
  | nil => exact nofun
  | cons n ns =>
    intro k hk
    rcases List.mem_append.mp hk with hk | hk
    · exact Node.separate_outside (fun p hp => h p (List.mem_append_left _ hp)) k hk
    · exact Node.separate_outsideAll (fun p hp => h p (List.mem_append_right _ hp)) k hk

end

end Outside

/-- Every line of a template gives rules in groups of their own, or none. -/
theorem Reading.separate_nodeOf (r : Reading) (text : String) : (r.nodeOf text).Separate := by
  rw [Reading.nodeOf]
  cases commandOf text with
  | none => exact Node.separate_of_actions rfl
  | some c =>
    show (r.node c).Separate
    rw [Reading.node]
    split
    case h_3 =>
      cases r.pending with
      | none => exact Node.separate_of_actions rfl
      | some p =>
        intro a ha
        rw [List.mem_singleton.mp ha]
        exact trivial
    case h_4 => cases r.pending <;> exact Node.separate_of_actions rfl
    case h_6 => split <;> exact Node.separate_of_actions rfl
    case h_9 =>
      intro a ha
      obtain ⟨n, -, rfl⟩ := List.mem_map.mp ha
      exact trivial
    all_goals exact Node.separate_of_actions rfl

theorem Reading.separate_entries (r : Reading) (lines : List String) :
    ∀ p ∈ r.entries lines, p.node.Separate := by
  induction lines generalizing r with
  | nil => exact nofun
  | cons text lines ih =>
    intro p hp
    rw [Reading.entries] at hp
    rcases List.mem_cons.mp hp with hentry | hp
    · rw [hentry, Reading.entry]
      dsimp only
      exact r.separate_nodeOf text
    · exact ih _ p hp

/-- In the tree of a template all rules are given in groups of their own. -/
theorem Template.separate (lines : List String) :
    ∀ p ∈ (Template.parse lines).root.outline 0, p.node.Separate := by
  intro p hp
  have hroot : (Template.parse lines).root =
      .list "<root>" (Template.parse lines).root.children := rfl
  rw [hroot, Node.outline] at hp
  rcases List.mem_cons.mp hp with rfl | hp
  · exact Node.separate_of_actions rfl
  · have hdescendants : p ∈ (Builder.build {} lines).1.descendants := hp
    rw [Builder.descendants_build] at hdescendants
    rcases List.mem_append.mp hdescendants with hp | hp
    · exact Reading.separate_entries _ lines p hp
    · rw [Reading.rest] at hp
      split at hp
      · cases hp
      · rw [List.mem_singleton.mp hp]
        exact Node.separate_of_actions rfl

/-! ## Moments -/

/-- A moment of rendering: the session, and the rules that have been given at each open level, the
innermost level first. -/
structure Moment where
  session : Session
  levels : List (List Rule)

namespace Moment

/-- The scope at a moment. -/
def scope (m : Moment) : Scope := m.session.scope

/-- The moment at which rendering starts. No rule has been given at the levels that are open. -/
def start (s : Session) : Moment := ⟨s, s.scope.frames.map fun _ => []⟩

/-- Rendering has gone on to a session. -/
def goOn (m : Moment) (t : Session) : Moment := { m with session := t }

/-- It has gone on, and rules have been given at the innermost level. -/
def give (m : Moment) (t : Session) (rules : List Rule) : Moment :=
  ⟨t, m.levels.modifyHead (· ++ rules)⟩

/-- A level has been opened at which there are some rules. -/
def enter (m : Moment) (t : Session) (rules : List Rule) : Moment := ⟨t, rules :: m.levels⟩

/-- The innermost level has been closed. -/
def leave (m : Moment) : Moment :=
  ⟨{ m.session with scope := m.scope.leave }, m.levels.tail⟩

/-- The level of a pass has been entered: with a placeholder, if its element has a name. -/
inductive Enters (m : Moment) (name : Option String) (v : Value) : Moment → Prop
  | unnamed :
    name.getD "" = "" → Enters m name v (m.enter { m.session with scope := m.scope.enter } [])
  | named {shown : String} {k : Machine} :
    name.getD "" ≠ "" → asText v m.session.machine = .ok shown k →
    Enters m name v (m.enter
      { m.session with scope := m.scope.passing (name.getD "") v shown, machine := k }
      [Scope.placeholder (name.getD "") shown])

end Moment

/-! ## The moments a run comes to -/

section Visiting

variable (e : Evaluator) (limit : Nat)

mutual

/-- Rendering a node from one moment comes to another. Moments between which the scope stays as it
is are told once. -/
inductive Visits : Node → Moment → Moment → Prop
  | start {n : Node} {m : Moment} : Visits n m m
  | list {description : String} {ns : List Node} {m m' : Moment} :
    VisitsAll ns m m' → Visits (.list description ns) m m'
  | line {text : String} {m : Moment} :
    Visits (.line text) m (m.goOn (ended ((Node.line text).render e limit m.session)))
  | eval {text : String} {m : Moment} :
    Visits (.eval text) m (m.goOn (ended ((Node.eval text).render e limit m.session)))
  | insert {text indent : String} {m : Moment} :
    Visits (.insert text indent) m
      (m.goOn (ended ((Node.insert text indent).render e limit m.session)))
  | error {message : String} {m : Moment} :
    Visits (.error message) m (m.goOn (ended ((Node.error message).render e limit m.session)))
  /-- Some first actions of an operation have been done, -/
  | acted {description : String} {before after : List Action} {m : Moment} :
    Visits (.operation description (some (before ++ after))) m
      (m.give (ended (perform description before m.session)) (Action.givenBy before))
  /-- and the next of them is being done. -/
  | acting {description : String} {before after : List Action} {a : Action} {m : Moment}
      {scope scope' : Scope} {rules : List Rule} :
    before.foldlM (fun t b => b.apply t) m.scope = .ok scope →
    a.Brings scope scope' rules →
    Visits (.operation description (some (before ++ a :: after))) m
      (m.give { m.session with scope := scope' } (Action.givenBy before ++ rules))
  /-- The expression of a block has no value. -/
  | refused {loop : LoopHeader} {ns : List Node} {text : String} {m : Moment} {f : Failure}
      {k : Machine} :
    loop.expression = some text →
    m.scope.evaluate e text m.session.machine = .error f k →
    Visits (.block loop ns) m
      (m.goOn (ended ((Node.block loop ns).render e limit m.session)))
  | once {loop : LoopHeader} {ns : List Node} {m m' : Moment} :
    loop.expression = none →
    VisitsPass none .none false ns m m' → Visits (.block loop ns) m m'
  | loop {loop : LoopHeader} {ns : List Node} {text : String} {m m' : Moment} {v : Value}
      {k k' : Machine} {r : Ref} :
    loop.expression = some text →
    m.scope.evaluate e text m.session.machine = .ok v k →
    elementsOf v k = .ok r k' →
    VisitsPasses loop ns r limit none (m.goOn { m.session with machine := k' }) m' →
    Visits (.block loop ns) m m'

/-- Rendering nodes one after the other comes to a moment. -/
inductive VisitsAll : List Node → Moment → Moment → Prop
  | start {ns : List Node} {m : Moment} : VisitsAll ns m m
  | head {n : Node} {ns : List Node} {m m' : Moment} :
    Visits n m m' → VisitsAll (n :: ns) m m'
  | tail {n : Node} {ns : List Node} {m m' : Moment} {t : Session} :
    n.render e limit m.session = .ok () t →
    VisitsAll ns (m.give t n.given) m' → VisitsAll (n :: ns) m m'

/-- Rendering a body in a level of its own comes to a moment; its lines may be collected. -/
inductive VisitsPass : Option String → Value → Bool → List Node → Moment → Moment → Prop
  | entered {name : Option String} {v : Value} {collected : Bool} {ns : List Node} {m : Moment} :
    VisitsPass name v collected ns m (m.enter { m.session with scope := m.scope.enter } [])
  /-- The element is bound before its text is found, which may fail. -/
  | bound {name : Option String} {v : Value} {collected : Bool} {ns : List Node} {m : Moment} :
    name.getD "" ≠ "" →
    VisitsPass name v collected ns m
      (m.enter { m.session with scope := m.scope.enter.bind (name.getD "") v } [])
  | placed {name : Option String} {v : Value} {collected : Bool} {ns : List Node} {m : Moment}
      {shown : String} {k : Machine} :
    name.getD "" ≠ "" →
    asText v m.session.machine = .ok shown k →
    VisitsPass name v collected ns m (m.enter
      { m.session with
        scope := (m.scope.enter.bind (name.getD "") v).add
          (Scope.placeholder (name.getD "") shown)
        machine := k }
      [Scope.placeholder (name.getD "") shown])
  | body {name : Option String} {v : Value} {collected : Bool} {ns : List Node}
      {m m₁ m' : Moment} :
    m.Enters name v m₁ →
    VisitsAll ns (m₁.goOn (if collected then apart m₁.session else m₁.session)) m' →
    VisitsPass name v collected ns m m'
  /-- However the body has ended, its level is closed. -/
  | left {name : Option String} {v : Value} {collected : Bool} {ns : List Node}
      {m m₁ m' : Moment} :
    m.Enters name v m₁ →
    VisitsAll ns (m₁.goOn (if collected then apart m₁.session else m₁.session)) m' →
    m'.scope = (ended (Node.renderAll e limit ns
      (if collected then apart m₁.session else m₁.session))).scope →
    VisitsPass name v collected ns m m'.leave

/-- The passes of a block come to a moment. -/
inductive VisitsPasses : LoopHeader → List Node → Ref → Nat → Option (List String) → Moment →
    Moment → Prop
  | start {loop : LoopHeader} {ns : List Node} {r : Ref} {fuel : Nat}
      {previous : Option (List String)} {m : Moment} : VisitsPasses loop ns r fuel previous m m
  | pass {loop : LoopHeader} {ns : List Node} {r : Ref} {fuel : Nat}
      {previous : Option (List String)} {m m' : Moment} {v : Value} {k : Machine} :
    next r m.session.machine = .ok (some v) k →
    VisitsPass loop.name v loop.collapse ns (m.goOn { m.session with machine := k }) m' →
    VisitsPasses loop ns r (fuel + 1) previous m m'
  | later {loop : LoopHeader} {ns : List Node} {r : Ref} {fuel : Nat}
      {previous lines : Option (List String)} {m m' : Moment} {t : Session} {v : Value}
      {k : Machine} :
    next r m.session.machine = .ok (some v) k →
    Render.pass loop (Node.renderAll e limit ns) previous v
      { m.session with machine := k } = .ok lines t →
    VisitsPasses loop ns r fuel lines (m.goOn t) m' →
    VisitsPasses loop ns r (fuel + 1) previous m m'

end

end Visiting

/-! ## What nodes leave as it is -/

/-- The rules are the same, and so are the levels around the innermost one. -/
structure SameRules (s t : Scope) : Prop extends SameAround s t where
  frame : t.frame = s.frame

namespace SameRules

variable {e : Evaluator} {limit : Nat}

theorem refl (s : Scope) : SameRules s s := ⟨⟨rfl, rfl⟩, rfl⟩

theorem of_levels {s t : Scope} (h : SameLevels s t) : SameRules s t := ⟨h.around, h.frame⟩

end SameRules

/-- Rendering that leaves the scope alone, however it ends. -/
def Aside {α : Type} (a : Render α) : Prop := ∀ s, (ended (a s)).scope = s.scope

namespace Aside

variable {α β : Type}

theorem pure (x : α) : Aside (pure x) := fun _ => rfl

theorem report (r : Reporter) (l : Level) (message : String) : Aside (report r l message) :=
  fun _ => rfl

theorem bind {a : Render α} {k : α → Render β} (ha : Aside a) (hk : ∀ x, Aside (k x)) :
    Aside (a >>= k) := by
  intro s
  have hs := ha s
  cases hrun : a s with
  | ok x t =>
    rw [hrun, ended_ok] at hs
    rw [bind_of_ok hrun, hk x t, hs]
  | error q t =>
    rw [hrun, ended_error] at hs
    rw [bind_of_error hrun, ended_error, hs]

theorem act (a : Act α) : Aside (act a) := by
  intro s
  cases h : a s.machine with
  | ok v m => rw [act_of_ok h, ended_ok]
  | error f m => rw [act_of_error h, ended_error]

theorem emit (text : String) : Aside (emit text) := by
  intro s
  rw [emit_apply]
  split <;> rfl

theorem emitAll (texts : List String) : Aside (emitAll texts) := by
  induction texts with
  | nil => exact pure ()
  | cons text texts ih => exact (emit text).bind fun _ => ih

/-- What comes after an action does not change what it has made of the scope. -/
theorem ended_bind {a : Render α} {k : α → Render β} (hk : ∀ x, Aside (k x)) (s : Session) :
    (ended ((a >>= k) s)).scope = (ended (a s)).scope := by
  cases hrun : a s with
  | ok x t => rw [bind_of_ok hrun, hk x t, ended_ok]
  | error q t => rw [bind_of_error hrun, ended_error, ended_error]

end Aside

namespace SameRules

variable {e : Evaluator} {limit : Nat}

theorem line (text : String) (s : Session) :
    SameRules s.scope (ended ((Node.line text).render e limit s)).scope := by
  rw [Node.render, Aside.ended_bind Aside.emit]
  cases h : s.scope.filterOrFail e text s.machine with
  | ok o m => exact filterLine_of_ok h ▸ refl s.scope
  | error f m => exact filterLine_of_error h ▸ ⟨⟨rfl, rfl⟩, rfl⟩

theorem eval (text : String) (s : Session) :
    SameRules s.scope (ended ((Node.eval text).render e limit s)).scope := by
  rw [Node.render]
  cases h : e.execute s.scope.bindings text s.machine with
  | ok r m => exact executeNode_of_ok h ▸ ⟨⟨rfl, rfl⟩, rfl⟩
  | error f m => exact executeNode_of_error h ▸ ⟨⟨rfl, rfl⟩, rfl⟩

theorem insert (text indent : String) (s : Session) :
    SameRules s.scope (ended ((Node.insert text indent).render e limit s)).scope := by
  rw [Node.render]
  cases h : s.scope.evaluate e text s.machine with
  | ok v m =>
    rw [insertNode_of_ok indent h, (Aside.act _).bind fun _ => Aside.emitAll _]
    exact refl s.scope
  | error f m => exact insertNode_of_error indent h ▸ ⟨⟨rfl, rfl⟩, rfl⟩

end SameRules

/-! ## What each moment keeps -/

/-- What is kept from one moment to another: rules that stood alone, as the levels told, still do,
and no level that was open before has been closed. -/
structure Moment.Keeps (m m' : Moment) : Prop where
  alone : m.scope.Alone m.levels → m'.scope.Alone m'.levels
  depth : m.scope.depth ≤ m'.scope.depth
  layers : m.scope.bindings.outer.length ≤ m'.scope.bindings.outer.length

namespace Moment.Keeps

variable {m m₁ m' m'' : Moment} {t : Session} {rules : List Rule}

theorem refl (m : Moment) : m.Keeps m := ⟨id, Nat.le_refl _, Nat.le_refl _⟩

theorem trans (h : m.Keeps m') (h' : m'.Keeps m'') : m.Keeps m'' :=
  ⟨fun hm => h'.alone (h.alone hm), Nat.le_trans h.depth h'.depth,
    Nat.le_trans h.layers h'.layers⟩

theorem goOn (h : SameRules m.scope t.scope) : m.Keeps (m.goOn t) where
  alone hm := hm.keep h.enclosing (congrArg Frame.held h.frame)
  depth := Nat.le_of_eq (congrArg List.length h.enclosing).symm
  layers := Nat.le_of_eq (congrArg List.length h.outer).symm

/-- The machine is no part of the scope. -/
theorem machine (m : Moment) (k : Machine) : m.Keeps (m.goOn { m.session with machine := k }) :=
  .goOn (.refl m.scope)

theorem give (h : SameAround m.scope t.scope)
    (hframe : t.scope.frame.held = m.scope.frame.held ++ Stencil.alone rules) :
    m.Keeps (m.give t rules) where
  alone hm := hm.give h.enclosing hframe
  depth := Nat.le_of_eq (congrArg List.length h.enclosing).symm
  layers := Nat.le_of_eq (congrArg List.length h.outer).symm

theorem enter (houter : t.scope.bindings.outer = m.scope.bindings.layers)
    (henclosing : t.scope.enclosing = m.scope.frames)
    (hframe : t.scope.frame.held = Stencil.alone rules) : m.Keeps (m.enter t rules) where
  alone hm := hm.enter henclosing hframe
  depth := by
    show m.scope.depth ≤ t.scope.enclosing.length
    rw [henclosing]
    exact Nat.le_succ _
  layers := by
    show _ ≤ t.scope.bindings.outer.length
    rw [houter]
    exact Nat.le_succ _

/-- Whatever has been kept inside a level is kept when the level is closed. -/
theorem leave (hopened : m.Keeps m₁) (hdepth : m₁.scope.depth = m.scope.depth + 1)
    (hlayers : m₁.scope.bindings.outer.length = m.scope.bindings.outer.length + 1)
    (h : m₁.Keeps m') : m.Keeps m'.leave := by
  have hdepth' := hdepth ▸ h.depth
  have hlayers' := hlayers ▸ h.layers
  have hall := fun hm => h.alone (hopened.alone hm)
  obtain ⟨⟨⟨⟨inner, outer⟩, frame, enclosing, errors⟩, _, _, _, _⟩, levels⟩ := m'
  -- There is a level of both kinds around the one that is closed.
  cases enclosing with
  | nil => exact absurd hdepth' (Nat.not_succ_le_zero _)
  | cons f fs =>
    cases outer with
    | nil => exact absurd hlayers' (Nat.not_succ_le_zero _)
    | cons l ls =>
      refine ⟨fun hm => ?_, Nat.le_of_succ_le_succ hdepth', Nat.le_of_succ_le_succ hlayers'⟩
      have hinside := hall hm
      cases levels with
      | nil => cases hinside
      | cons level levels => exact (List.cons.inj hinside).2

end Moment.Keeps

/-- A level that has been entered lies inside all levels that were there before. -/
theorem Moment.Enters.opened {m m₁ : Moment} {name : Option String} {v : Value}
    (h : m.Enters name v m₁) :
    m.Keeps m₁ ∧ m₁.scope.depth = m.scope.depth + 1 ∧
      m₁.scope.bindings.outer.length = m.scope.bindings.outer.length + 1 := by
  cases h with
  | unnamed _ => exact ⟨.enter rfl rfl rfl, rfl, rfl⟩
  | named _ _ => exact ⟨.enter rfl rfl rfl, rfl, rfl⟩

theorem Moment.Enters.enterPass_eq {m m₁ : Moment} {name : Option String} {v : Value}
    (h : m.Enters name v m₁) : enterPass name v m.session = .ok () m₁.session := by
  cases h with
  | unnamed hname => exact enterPass_of_unnamed hname v m.session
  | named hname hv => exact enterPass_of_ok hname hv

section Keeping

variable {e : Evaluator} {limit d : Nat} {m m' : Moment}

theorem keeps_render {n : Node} {t : Session} (hn : ∀ p ∈ n.outline d, p.node.Separate)
    (h : n.render e limit m.session = .ok () t) : m.Keeps (m.give t n.given) :=
  .give ((Carries.compositional e).render limit n m.session t (.inl ⟨(), h⟩))
    ((n.render_trails.exhausted m.session t h).held (Node.separate_outside hn))

/-- Some first actions of an operation, of which the rest have not been done. -/
theorem keeps_perform {actions : List Action} (description : String)
    (h : ∀ a ∈ actions, a.Separate) :
    m.Keeps (m.give (ended (perform description actions m.session)) (Action.givenBy actions)) := by
  obtain ⟨t, hrun, hbindings, hframe, henclosing⟩ := perform_frame description actions m.session
  rw [hrun, ended_ok]
  refine .give ⟨congrArg Bindings.outer hbindings, henclosing⟩ ?_
  rw [hframe, Frame.held_perform h]
  rfl

theorem Action.Brings.held {a : Action} {s t : Scope} {rules : List Rule} (h : a.Brings s t rules) :
    t.bindings = s.bindings ∧ t.enclosing = s.enclosing ∧
      t.frame.held = s.frame.held ++ alone rules := by
  cases h with
  | opened => exact ⟨rfl, rfl, by rw [alone_nil, List.append_nil]; exact s.frame.held_newGroup⟩
  | given _ =>
    rw [Scope.foldl_addAlone]
    exact ⟨rfl, rfl, Frame.held_foldl_addAlone rules s.frame⟩
  | between _ =>
    rw [Scope.foldl_addAlone]
    exact ⟨rfl, rfl, (Frame.held_newGroup _).trans (Frame.held_foldl_addAlone rules s.frame)⟩

/-- In the middle of an action the rules stand alone as well. -/
theorem keeps_brings {before after : List Action} {a : Action} {scope scope' : Scope}
    {rules : List Rule} (h : ∀ b ∈ before ++ a :: after, b.Separate)
    (hbefore : before.foldlM (fun t b => b.apply t) m.scope = .ok scope)
    (hbrings : a.Brings scope scope' rules) :
    m.Keeps (m.give { m.session with scope := scope' } (Action.givenBy before ++ rules)) := by
  obtain ⟨t, hrun, hbindings, hframe, henclosing⟩ := perform_frame "" before m.session
  have hperform : perform "" before m.session = .ok () { m.session with scope := scope } := by
    have happend : perform "" (before ++ []) m.session = _ := perform_append hbefore []
    rwa [List.append_nil] at happend
  cases hperform.symm.trans hrun
  obtain ⟨hbindings', henclosing', hheld⟩ := hbrings.held
  refine .give
    ⟨congrArg Bindings.outer (hbindings'.trans hbindings), henclosing'.trans henclosing⟩ ?_
  rw [hheld, hframe, Frame.held_perform fun b hb => h b (List.mem_append_left _ hb), alone_append,
    List.append_assoc]
  rfl

theorem VisitsPass.keeps {name : Option String} {v : Value} {collected : Bool} {ns : List Node}
    (hns : ∀ {m m' : Moment}, VisitsAll e limit ns m m' → m.Keeps m')
    (h : VisitsPass e limit name v collected ns m m') : m.Keeps m' := by
  have hcollected : ∀ m₁ : Moment,
      m₁.Keeps (m₁.goOn (if collected then apart m₁.session else m₁.session)) := by
    intro m₁
    refine .goOn ?_
    cases collected <;> exact .refl m₁.scope
  cases h with
  | entered => exact .enter rfl rfl rfl
  | bound _ => exact .enter rfl rfl rfl
  | placed _ _ => exact .enter rfl rfl rfl
  | body henter h => exact henter.opened.1.trans ((hcollected _).trans (hns h))
  | left henter h _ =>
    obtain ⟨hkeeps, hdepth, hlayers⟩ := henter.opened
    exact hkeeps.leave hdepth hlayers ((hcollected _).trans (hns h))

theorem VisitsPasses.keeps {loop : LoopHeader} {ns : List Node} {r : Ref} {fuel : Nat}
    (hns : ∀ {m m' : Moment}, VisitsAll e limit ns m m' → m.Keeps m') :
    ∀ {previous : Option (List String)} {m m' : Moment},
      VisitsPasses e limit loop ns r fuel previous m m' → m.Keeps m' := by
  have hbody := (Carries.compositional e).renderAll limit ns
  induction fuel with
  | zero =>
    intro previous m m' h
    cases h
    exact .refl m
  | succ fuel ih =>
    intro previous m m' h
    cases h with
    | start => exact .refl m
    | pass _ h => exact (Moment.Keeps.machine m _).trans (h.keeps hns)
    | later _ hpass h =>
      have hlevels := Carries.aroundPasses.pass hbody loop previous _ _ _ (.inl ⟨_, hpass⟩)
      exact (Moment.Keeps.goOn (.of_levels hlevels)).trans (ih h)

mutual

/-- Rules stand alone at every moment of a run, as its levels tell, if they do at the start. -/
theorem Visits.keeps {d : Nat} {n : Node} {m m' : Moment} (hn : ∀ p ∈ n.outline d, p.node.Separate)
    (h : Visits e limit n m m') : m.Keeps m' := by
  cases n with
  | list _ ns =>
    cases h with
    | start => exact .refl m
    | list h => exact VisitsAll.keeps (fun p hp => hn p (.tail _ hp)) h
  | line text =>
    cases h with
    | start => exact .refl m
    | line => exact .goOn (.line text m.session)
  | eval text =>
    cases h with
    | start => exact .refl m
    | eval => exact .goOn (.eval text m.session)
  | insert text indent =>
    cases h with
    | start => exact .refl m
    | insert => exact .goOn (.insert text indent m.session)
  | error message =>
    cases h with
    | start => exact .refl m
    | error => exact .goOn ⟨⟨rfl, rfl⟩, rfl⟩
  | operation description actions =>
    have hactions := hn _ (.head [])
    cases h with
    | start => exact .refl m
    | acted => exact keeps_perform description fun a ha => hactions a (List.mem_append_left _ ha)
    | acting hbefore hbrings => exact keeps_brings hactions hbefore hbrings
  | block loop ns =>
    have hns : ∀ {m m' : Moment}, VisitsAll e limit ns m m' → m.Keeps m' :=
      VisitsAll.keeps fun p hp => hn p (.tail _ hp)
    cases h with
    | start => exact .refl m
    | refused htext hv =>
      rw [Node.render, blockNode_of_error htext hv]
      exact .goOn ⟨⟨rfl, rfl⟩, rfl⟩
    | once _ h => exact h.keeps hns
    | loop _ _ _ h => exact (Moment.Keeps.machine m _).trans (h.keeps hns)

theorem VisitsAll.keeps {d : Nat} {ns : List Node} {m m' : Moment}
    (hns : ∀ p ∈ Node.outlineAll d ns, p.node.Separate) (h : VisitsAll e limit ns m m') :
    m.Keeps m' := by
  cases ns with
  | nil =>
    cases h
    exact .refl m
  | cons n ns =>
    have hn : ∀ p ∈ n.outline d, p.node.Separate := fun p hp => hns p (List.mem_append_left _ hp)
    cases h with
    | start => exact .refl m
    | head h => exact Visits.keeps hn h
    | tail hrun h =>
      exact (keeps_render hn hrun).trans
        (VisitsAll.keeps (fun p hp => hns p (List.mem_append_right _ hp)) h)

end

end Keeping

/-! ## The end is a moment -/

section Ending

variable {e : Evaluator} {limit : Nat}

theorem scope_collecting (body : Render Unit) (s : Session) :
    (ended (collecting body s)).scope = (ended (body (apart s))).scope := by
  cases hrun : body (apart s) with
  | ok x t => rw [collecting_of_ok hrun]; rfl
  | error q t => rw [collecting_of_error hrun]; rfl

/-- After a pass the scope is as its body has left it, also where collected lines are handed out
then. -/
theorem scope_pass (loop : LoopHeader) (body : Render Unit) (previous : Option (List String))
    (v : Value) (s : Session) :
    (ended (pass loop body previous v s)).scope =
      if loop.collapse then (ended (nested loop.name v (collecting body) s)).scope
      else (ended (nested loop.name v body s)).scope := by
  rw [Render.pass]
  cases loop.collapse with
  | false => exact Aside.ended_bind (fun _ => .pure _) s
  | true =>
    refine Aside.ended_bind (fun lines => ?_) s
    split
    · exact Aside.bind (.report _ _ _) fun _ => .pure _
    · exact Aside.bind (.emitAll lines) fun _ => .pure _

/-- There is a moment at which a pass ends, if there is one at which its body does. -/
theorem VisitsPass.exists_end {α : Type} {ns : List Node} (body : Render α) (collected : Bool)
    (hns : ∀ m : Moment, ∃ m', VisitsAll e limit ns m m' ∧
      m'.scope = (ended (Node.renderAll e limit ns m.session)).scope)
    (hbody : ∀ s, (ended (body s)).scope =
      (ended (Node.renderAll e limit ns (if collected then apart s else s))).scope)
    (name : Option String) (v : Value) (m : Moment) :
    ∃ m', VisitsPass e limit name v collected ns m m' ∧
      m'.scope = (ended (nested name v body m.session)).scope := by
  -- Where the level can be entered, the body ends at a moment, and then the level is closed.
  have hentered : ∀ m₁, m.Enters name v m₁ → ∃ m', VisitsPass e limit name v collected ns m m' ∧
      m'.scope = (ended (nested name v body m.session)).scope := by
    intro m₁ henter
    obtain ⟨m', hvisits, hscope⟩ :=
      hns (m₁.goOn (if collected then apart m₁.session else m₁.session))
    refine ⟨m'.leave, .left henter hvisits hscope, ?_⟩
    rw [ended_nested henter.enterPass_eq]
    show m'.scope.leave = (ended (body m₁.session)).scope.leave
    rw [hscope, hbody]
    rfl
  by_cases hname : name.getD "" = ""
  · exact hentered _ (.unnamed hname)
  · cases hv : asText v m.session.machine with
    | ok shown k => exact hentered _ (.named hname hv)
    | error f k =>
      refine ⟨_, .bound hname, ?_⟩
      rw [nested, bind_of_error (enterPass_of_error hname hv)]
      rfl

theorem VisitsPasses.exists_end {ns : List Node} (loop : LoopHeader) (r : Ref) (fuel : Nat)
    (hns : ∀ m : Moment, ∃ m', VisitsAll e limit ns m m' ∧
      m'.scope = (ended (Node.renderAll e limit ns m.session)).scope) :
    ∀ (previous : Option (List String)) (m : Moment),
      ∃ m', VisitsPasses e limit loop ns r fuel previous m m' ∧
        m'.scope =
          (ended (passes loop r (Node.renderAll e limit ns) fuel previous m.session)).scope := by
  induction fuel with
  | zero => exact fun previous m => ⟨m, .start, rfl⟩
  | succ fuel ih =>
    intro previous m
    cases hv : next r m.session.machine with
    | error f k =>
      refine ⟨m, .start, ?_⟩
      rw [passes, bind_of_error (act_of_error hv)]
      rfl
    | ok found k =>
      cases found with
      | none =>
        refine ⟨m, .start, ?_⟩
        rw [passes_of_none hv]
        rfl
      | some v =>
        rw [passes_of_some hv]
        cases hpass : Render.pass loop (Node.renderAll e limit ns) previous v
            { m.session with machine := k } with
        | ok lines t =>
          obtain ⟨m', hvisits, hscope⟩ := ih lines (m.goOn t)
          refine ⟨m', .later hv hpass hvisits, ?_⟩
          rw [bind_of_ok hpass, hscope]
          rfl
        | error q t =>
          -- The pass has not been gone through to its end.
          have hend : ∃ m', VisitsPass e limit loop.name v loop.collapse ns
              (m.goOn { m.session with machine := k }) m' ∧
              m'.scope = (ended (Render.pass loop (Node.renderAll e limit ns) previous v
                { m.session with machine := k })).scope := by
            rw [scope_pass]
            cases loop.collapse with
            | false => exact VisitsPass.exists_end _ false hns (fun _ => rfl) _ _ _
            | true => exact VisitsPass.exists_end _ true hns (scope_collecting _) _ _ _
          obtain ⟨m', hvisits, hscope⟩ := hend
          refine ⟨m', .pass hv hvisits, ?_⟩
          rw [bind_of_error hpass, hscope, hpass]
          rfl

mutual

/-- However a run ends, there is a moment with the scope that it leaves. -/
theorem Visits.exists_end (n : Node) (m : Moment) :
    ∃ m', Visits e limit n m m' ∧ m'.scope = (ended (n.render e limit m.session)).scope := by
  cases n with
  | list _ ns =>
    obtain ⟨m', hvisits, hscope⟩ := VisitsAll.exists_end ns m
    exact ⟨m', .list hvisits, hscope⟩
  | line text => exact ⟨_, .line, rfl⟩
  | eval text => exact ⟨_, .eval, rfl⟩
  | insert text indent => exact ⟨_, .insert, rfl⟩
  | error message => exact ⟨_, .error, rfl⟩
  | operation description actions =>
    cases actions with
    | none => exact ⟨m, .start, rfl⟩
    | some actions =>
      have hvisits : Visits e limit (.operation description (some (actions ++ []))) m _ := .acted
      rw [List.append_nil] at hvisits
      exact ⟨_, hvisits, rfl⟩
  | block loop ns =>
    have hns : ∀ m : Moment, ∃ m', VisitsAll e limit ns m m' ∧
        m'.scope = (ended (Node.renderAll e limit ns m.session)).scope := VisitsAll.exists_end ns
    cases htext : loop.expression with
    | none =>
      obtain ⟨m', hvisits, hscope⟩ :=
        VisitsPass.exists_end (Node.renderAll e limit ns) false hns (fun _ => rfl) none .none m
      refine ⟨m', .once htext hvisits, ?_⟩
      rw [Node.render, blockNode_of_once htext, hscope]
    | some text =>
      cases hv : m.scope.evaluate e text m.session.machine with
      | error f k => exact ⟨_, .refused htext hv, rfl⟩
      | ok v k =>
        obtain ⟨r, k', hr⟩ := Safe.elementsOf v k
        obtain ⟨m', hvisits, hscope⟩ := VisitsPasses.exists_end loop r limit hns none
          (m.goOn { m.session with machine := k' })
        refine ⟨m', .loop htext hv hr hvisits, ?_⟩
        rw [Node.render, blockNode_of_ok htext hv, bind_of_ok (act_of_ok hr), hscope]
        rfl

theorem VisitsAll.exists_end (ns : List Node) (m : Moment) :
    ∃ m', VisitsAll e limit ns m m' ∧
      m'.scope = (ended (Node.renderAll e limit ns m.session)).scope := by
  cases ns with
  | nil => exact ⟨m, .start, rfl⟩
  | cons n ns =>
    cases hrun : n.render e limit m.session with
    | ok x t =>
      obtain ⟨m', hvisits, hscope⟩ := VisitsAll.exists_end ns (m.give t n.given)
      refine ⟨m', .tail hrun hvisits, ?_⟩
      rw [Node.renderAll, bind_of_ok hrun, hscope]
      rfl
    | error q t =>
      obtain ⟨m', hvisits, hscope⟩ := Visits.exists_end n m
      refine ⟨m', .head hvisits, ?_⟩
      rw [Node.renderAll, bind_of_error hrun, hscope, hrun, ended_error]

end

end Ending

/-! ## Rules one after the other -/

/-- **The rules of a template are applied one after the other.** (1) However a run of its tree ends,
the scope is then that of a moment of the run. (2) When the run has started without rules, at every
moment each group that holds rules holds one: at the levels, from the inside out, the placeholder of
the pass and then the rules that its lines have given, in their order. So any line goes through
these rules one after the other, and where no pattern fails it goes through all of them. -/
theorem Template.rules_in_turn (lines : List String) (e : Evaluator) (limit : Nat) (s : Session)
    (hs : s.scope.groups = []) :
    (∃ m, Visits e limit (Template.parse lines).root (.start s) m ∧
      m.scope = (ended ((Template.parse lines).root.render e limit s)).scope) ∧
    ∀ m, Visits e limit (Template.parse lines).root (.start s) m →
      (∀ f ∈ m.scope.frames, ∀ g ∈ f.groups, g ≠ [] → ∃ r, g = [r]) ∧
        m.scope.InTurn e m.levels := by
  refine ⟨Visits.exists_end _ (.start s), fun m hm => ?_⟩
  have halone : m.scope.Alone m.levels :=
    (hm.keeps (Template.separate lines)).alone (Scope.alone_of_groups_eq_nil hs)
  exact ⟨halone.singleton, halone.inTurn e⟩

/-- Lines with a rule, and a pass in which blanks are normalized. -/
def tidiedPass : List String :=
  ["///=a", "///->b", "///<<< n: x", "///normalize spaces", "_n", "///>>>"]

theorem tidiedPass_root : (Template.parse tidiedPass).root = .list "<root>"
    [.operation "=a" none, .operation "=a->b" (some [.rule ⟨.plain, "a", "b"⟩]),
      .block ⟨some "n", some "x", false⟩
        [.operation "normalize spaces" (some [.normalize .spaces]), .line "_n"],
      .operation ("pop " ++ (Node.block ⟨some "n", some "x", false⟩ []).describe) none] := by
  have hpattern : commandOf "///=a" = some ⟨.pattern .plain "a", "=a", ""⟩ := by decide +kernel
  have hreplacement : commandOf "///->b" = some ⟨.replacement "b", "->b", ""⟩ := by decide +kernel
  have hopen : commandOf "///<<< n: x" =
      some ⟨.blockOpen ⟨some "n", some "x", false⟩, "<<< n: x", ""⟩ := by decide +kernel
  have hnormalize : commandOf "///normalize spaces" =
      some ⟨.normalize [.spaces], "normalize spaces", ""⟩ := by decide +kernel
  have hline : commandOf "_n" = none := by decide +kernel
  have hclose : commandOf "///>>>" = some ⟨.blockClose, ">>>", ""⟩ := by decide +kernel
  rw [Template.parse, Builder.build, Builder.complete]
  simp only [tidiedPass, List.foldl_cons, List.foldl_nil, Builder.line_of_command hpattern,
    Builder.line_of_command hreplacement, Builder.line_of_command hopen,
    Builder.line_of_command hnormalize, Builder.line_of_output hline,
    Builder.line_of_command hclose]
  rfl

/-- At the line in the pass the placeholder comes first, then the rules for blanks, then the rule
from outside of the pass. -/
theorem Template.rules_in_turn_tidiedPass :
    (Scope.ofLayer []).groups = [] ∧
      ∃ m, Visits (.table [] []) 1 (Template.parse tidiedPass).root
          (.start { scope := .ofLayer [] }) m ∧
        m.levels = [Scope.placeholder "n" "x" :: Scope.spacing, [⟨.plain, "a", "b"⟩]] ∧
        m.scope.InTurn (.table [] []) m.levels := by
  have hnext : next 0 { cells := #[.iterator (.fixed [.str "x"])], journal := ["x"] } =
      .ok (some (.str "x")) { cells := #[.iterator (.fixed [])], journal := ["x"] } := by
    rw [next]
    rfl
  have hvisits : ∃ m, Visits (.table [] []) 1 (Template.parse tidiedPass).root
      (.start { scope := .ofLayer [] }) m ∧
        m.levels = [Scope.placeholder "n" "x" :: Scope.spacing, [⟨.plain, "a", "b"⟩]] := by
    rw [tidiedPass_root]
    exact ⟨_, .list (.tail rfl (.tail rfl (.head (.loop rfl rfl rfl (.pass hnext
      (.body (.named (by decide) rfl) (.tail rfl (.head .start)))))))), rfl⟩
  obtain ⟨m, hm, hlevels⟩ := hvisits
  exact ⟨rfl, m, hm, hlevels, ((Template.rules_in_turn _ _ _ _ rfl).2 m hm).2⟩

end Stencil
