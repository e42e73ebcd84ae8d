import Stencil.Proofs.Balance
import Stencil.Proofs.Names
/-!
# Stencil.Proofs.Padding -- a level that holds nothing

A level without bindings and rules cannot be told by what is found in a scope: names are looked up
through it, and lines go through it unchanged. Rendering in a scope with such a level runs parallel
to rendering without it, as long as the level is not the innermost one, into which statements and
operations write; nodes that do neither may also be rendered right inside it. The one thing that
leaves the two apart is a level that stays open, which happens where the element of a pass has no
text.
-/

namespace Stencil

open Stencil.Expr Render

/-! ## Lists with one more member -/

/-- The list `base` with `k` members before it, and the same with `x` between them. -/
inductive Spaced {α : Type} (x : α) (base : List α) : Nat → List α → List α → Prop
  | here : Spaced x base 0 base (x :: base)
  | under {k : Nat} {l l' : List α} (a : α) :
    Spaced x base k l l' → Spaced x base (k + 1) (a :: l) (a :: l')

namespace Spaced

variable {α : Type} {x : α} {base l l' : List α} {k : Nat}

theorem cons_iff {a a' : α} :
    Spaced x base (k + 1) (a :: l) (a' :: l') ↔ a' = a ∧ Spaced x base k l l' := by
  constructor
  · rintro (_ | ⟨_, h⟩)
    exact ⟨rfl, h⟩
  · rintro ⟨rfl, h⟩
    exact .under a' h

theorem zero_iff : Spaced x base 0 l l' ↔ l = base ∧ l' = x :: base := by
  constructor
  · rintro ⟨⟩
    exact ⟨rfl, rfl⟩
  · rintro ⟨rfl, rfl⟩
    exact .here

theorem left_ne_nil (hbase : base ≠ []) (h : Spaced x base k l l') : l ≠ [] := by
  cases h with
  | here => exact hbase
  | under a _ => exact List.cons_ne_nil a _

theorem right_ne_nil (h : Spaced x base k l l') : l' ≠ [] := by
  cases h with
  | here => exact List.cons_ne_nil x _
  | under a _ => exact List.cons_ne_nil a _

/-- The new member does not show where nothing comes of it. -/
theorem flatMap_eq {β : Type} {g : α → List β} (hx : g x = []) (h : Spaced x base k l l') :
    l'.flatMap g = l.flatMap g := by
  induction h with
  | here => rw [List.flatMap_cons, hx, List.nil_append]
  | under a _ ih => rw [List.flatMap_cons, List.flatMap_cons, ih]

/-- No name is bound in an empty layer. -/
theorem lookIn_eq {base l l' : List Layer} (h : Spaced [] base k l l') (name : String) :
    Bindings.lookIn l' name = Bindings.lookIn l name := by
  induction h with
  | here => rfl
  | under a _ ih => rw [Bindings.lookIn, Bindings.lookIn, ih]

end Spaced

/-! ## Scopes with one more level -/

namespace Scope

theorem leave_levels {s : Scope} (houter : s.bindings.outer ≠ []) (henclosing : s.enclosing ≠ []) :
    s.leave.bindings.layers = s.bindings.outer ∧ s.leave.frames = s.enclosing := by
  obtain ⟨⟨inner, _ | ⟨l, ls⟩⟩, frame, _ | ⟨f, fs⟩, errors⟩ := s
  · exact absurd rfl houter
  · exact absurd rfl houter
  · exact absurd rfl henclosing
  · exact ⟨rfl, rfl⟩

/-- The scope `s` has the levels of `base` and `k` more inside them; `s'` has an empty level between
the two. -/
structure Padded (base : Scope) (k : Nat) (s s' : Scope) : Prop where
  layers : Spaced [] base.bindings.layers k s.bindings.layers s'.bindings.layers
  frames : Spaced {} base.frames k s.frames s'.frames
  errors : s'.errors = s.errors

namespace Padded

variable {base s s' : Scope} {k : Nat}

theorem of_enter (s : Scope) : Padded s 0 s s.enter := ⟨.here, .here, rfl⟩

theorem enter (h : Padded base k s s') : Padded base (k + 1) s.enter s'.enter :=
  ⟨.under [] h.layers, .under ({} : Frame) h.frames, h.errors⟩

theorem error (h : Padded base k s s') (message : String) :
    Padded base k (s.error message) (s'.error message) :=
  ⟨h.layers, h.frames, by rw [Scope.error, Scope.error, h.errors]⟩

/-- The innermost of the levels inside is the same in both. -/
theorem innermost (h : Padded base (k + 1) s s') :
    s'.bindings.inner = s.bindings.inner ∧ s'.frame = s.frame :=
  ⟨(Spaced.cons_iff.mp h.layers).1, (Spaced.cons_iff.mp h.frames).1⟩

/-- What is written to the innermost of the levels inside leaves the others as they are. -/
theorem rebound (h : Padded base (k + 1) s s') (l : Layer) :
    Padded base (k + 1) (s.rebound l) (s'.rebound l) :=
  ⟨.under l (Spaced.cons_iff.mp h.layers).2, h.frames, h.errors⟩

theorem withFrame (h : Padded base (k + 1) s s') (f : Frame) :
    Padded base (k + 1) { s with frame := f } { s' with frame := f } :=
  ⟨h.layers, .under f (Spaced.cons_iff.mp h.frames).2, h.errors⟩

/-- A pass opens the same level in both. -/
theorem bind (h : Padded base k s s') (name : String) (v : Value) :
    Padded base (k + 1) (s.enter.bind name v) (s'.enter.bind name v) :=
  ⟨.under (Layer.put [] name v) h.layers, .under ({} : Frame) h.frames, h.errors⟩

theorem passing (h : Padded base k s s') (name : String) (v : Value) (shown : String) :
    Padded base (k + 1) (s.passing name v shown) (s'.passing name v shown) :=
  (h.bind name v).withFrame (({} : Frame).add (placeholder name shown)).newGroup

theorem leave (h : Padded base (k + 1) s s') : Padded base k s.leave s'.leave := by
  have hlayers := (Spaced.cons_iff.mp h.layers).2
  have hframes := (Spaced.cons_iff.mp h.frames).2
  obtain ⟨hl, hf⟩ := leave_levels (s := s) (hlayers.left_ne_nil (List.cons_ne_nil _ _))
    (hframes.left_ne_nil (List.cons_ne_nil _ _))
  obtain ⟨hl', hf'⟩ := leave_levels (s := s') hlayers.right_ne_nil hframes.right_ne_nil
  exact ⟨by rwa [hl, hl'], by rwa [hf, hf'], by rw [errors_leave, errors_leave, h.errors]⟩

/-- With no level inside, the new level is the innermost one. -/
theorem eq_enter (h : Padded base 0 s s') : s' = s.enter := by
  obtain ⟨hlayers, hlayers'⟩ := Spaced.zero_iff.mp h.layers
  obtain ⟨hframes, hframes'⟩ := Spaced.zero_iff.mp h.frames
  obtain ⟨⟨inner, outer⟩, frame, enclosing, errors⟩ := s'
  rw [← hlayers] at hlayers'
  rw [← hframes] at hframes'
  cases hlayers'
  cases hframes'
  cases h.errors
  rfl

theorem depth (h : Padded base 1 s s') : s.depth = base.depth + 1 := by
  have hframes := (Spaced.zero_iff.mp (Spaced.cons_iff.mp h.frames).2).1
  rw [Scope.depth, hframes]
  rfl

/-- Names have the same values. -/
theorem agree (h : Padded base k s s') : s.bindings.Agree s'.bindings :=
  fun name => h.layers.lookIn_eq name

/-- Lines go through the same groups. -/
theorem groups (h : Padded base k s s') : s'.groups = s.groups := h.frames.flatMap_eq rfl

end Padded

end Scope

/-- Lines are filtered alike. -/
theorem Scope.Padded.filterOrFail_eq {base s s' : Scope} {k : Nat} (h : base.Padded k s s')
    {e : Evaluator} (he : e.ByName) (text : String) :
    s'.filterOrFail e text = s.filterOrFail e text := by
  rw [Scope.filterOrFail_eq_groups, Scope.filterOrFail_eq_groups, h.groups,
    Substitution.applyAll_agree he h.agree]

/-! ## Rendering -/

/-- What an action does to a scope is done to the rules of its innermost level. -/
theorem Action.apply_cases (a : Action) :
    (∃ g : Frame → Frame, ∀ s : Scope, a.apply s = .ok { s with frame := g s.frame }) ∨
      ∃ f, ∀ s, a.apply s = .error f := by
  cases a with
  | rule r => exact .inl ⟨(Frame.addAlone · r), fun _ => rfl⟩
  | alternative r => exact .inl ⟨Frame.add r, fun _ => rfl⟩
  | normalize n =>
    cases n
    refine .inl ⟨fun f => (Scope.spacing.foldl Frame.addAlone f).newGroup, fun s => ?_⟩
    rw [Action.apply, Scope.normalizeSpaces, Scope.foldl_addAlone]
    rfl
  | fail f => exact .inr ⟨f, fun _ => rfl⟩

/-- Rendering ends alike in sessions that only differ by a level. Where it fails, a level inside it
may have stayed open. -/
inductive EndsAlike (base : Scope) (k : Nat) {α : Type} :
    EStateM.Result Halt Session α → EStateM.Result Halt Session α → Prop
  | ok (x : α) {t : Session} {c : Scope} :
    base.Padded k t.scope c → EndsAlike base k (.ok x t) (.ok x { t with scope := c })
  | error (q : Halt) {t : Session} {c : Scope} :
    base.Padded k t.scope c → EndsAlike base k (.error q t) (.error q { t with scope := c })
  | leftOpen (f : Failure) {t : Session} {c : Scope} : base.Padded (k + 1) t.scope c →
    EndsAlike base k (.error (.failed f) t) (.error (.failed f) { t with scope := c })

/-- Rendering that runs parallel in sessions that only differ by a level under `k` others. -/
def Parallel (base : Scope) (k : Nat) {α : Type} (a : Render α) : Prop :=
  ∀ (s : Session) (c : Scope), base.Padded k s.scope c →
    EndsAlike base k (a s) (a { s with scope := c })

/-- Rendering that runs parallel wherever the further level is not the innermost one. -/
def ParallelInside (base : Scope) {α : Type} (a : Render α) : Prop :=
  ∀ k, Parallel base (k + 1) a

namespace Parallel

variable {base : Scope} {k : Nat} {α β : Type}

theorem pure (x : α) : Parallel base k (pure x) := fun _ _ h => .ok x h

theorem bind {a : Render α} {r : α → Render β} (ha : Parallel base k a)
    (hr : ∀ x, Parallel base k (r x)) : Parallel base k (a >>= r) := by
  intro s c h
  have hfirst := ha s c h
  generalize hrun : a s = u at hfirst
  generalize hrun' : a { s with scope := c } = u' at hfirst
  cases hfirst with
  | ok x hc =>
    rw [bind_of_ok hrun, bind_of_ok hrun']
    exact hr x _ _ hc
  | error q hc =>
    rw [bind_of_error hrun, bind_of_error hrun']
    exact .error q hc
  | leftOpen f hc =>
    rw [bind_of_error hrun, bind_of_error hrun']
    exact .leftOpen f hc

theorem act (a : Act α) : Parallel base k (act a) := by
  intro s c h
  cases ha : a s.machine with
  | ok v m =>
    rw [act_of_ok ha, act_of_ok (s := { s with scope := c }) ha]
    exact .ok v h
  | error f m =>
    rw [act_of_error ha, act_of_error (s := { s with scope := c }) ha]
    exact .error _ h

theorem evaluation {e : Evaluator} (he : e.ByName) (text : String) :
    Parallel base k (evaluation e text) := by
  intro s c h
  have hevaluate : c.evaluate e text = s.scope.evaluate e text :=
    congrFun (he.evaluate h.agree) text
  rw [Render.evaluation, bind_of_ok (currentScope_apply _), bind_of_ok (currentScope_apply _)]
  change EndsAlike base k (attempt (s.scope.evaluate e text) s)
    (attempt (c.evaluate e text) { s with scope := c })
  rw [hevaluate]
  cases hv : s.scope.evaluate e text s.machine with
  | ok v m =>
    rw [attempt_of_ok hv, attempt_of_ok (s := { s with scope := c }) hv]
    exact .ok _ h
  | error f m =>
    rw [attempt_of_error hv, attempt_of_error (s := { s with scope := c }) hv]
    exact .ok _ h

theorem recordError (message : String) : Parallel base k (recordError message) :=
  fun _ _ h => .ok () (h.error message)

theorem emit (text : String) : Parallel base k (emit text) := by
  intro s c h
  have hhanded : handed text { s with scope := c } = { handed text s with scope := c } := by
    rw [handed, handed, h.errors]
  rw [emit_apply, emit_apply, hhanded]
  split
  · exact .error _ h
  · exact .ok _ h

/-- A pass is entered alike. Where its element has no text, its level stays open in both. -/
theorem enterPass (name : Option String) (v : Value) (s : Session) (c : Scope)
    (h : base.Padded k s.scope c) :
    (∃ t d, base.Padded (k + 1) t.scope d ∧ enterPass name v s = .ok () t ∧
      enterPass name v { s with scope := c } = .ok () { t with scope := d }) ∨
    ∃ f t d, base.Padded (k + 1) t.scope d ∧ enterPass name v s = .error (.failed f) t ∧
      enterPass name v { s with scope := c } = .error (.failed f) { t with scope := d } := by
  by_cases hname : name.getD "" = ""
  · exact .inl ⟨_, _, h.enter, enterPass_of_unnamed hname v s,
      enterPass_of_unnamed hname v { s with scope := c }⟩
  · cases hv : asText v s.machine with
    | ok shown m =>
      exact .inl ⟨_, _, h.passing _ v shown, enterPass_of_ok hname hv,
        enterPass_of_ok (s := { s with scope := c }) hname hv⟩
    | error f m =>
      exact .inr ⟨f, _, _, h.bind _ v, enterPass_of_error hname hv,
        enterPass_of_error (s := { s with scope := c }) hname hv⟩

theorem nested {body : Render α} (name : Option String) (v : Value)
    (hbody : ParallelInside base body) : Parallel base k (nested name v body) := by
  intro s c h
  rw [Render.nested]
  rcases enterPass name v s c h with ⟨t, d, ht, hrun, hrun'⟩ | ⟨f, t, d, ht, hrun, hrun'⟩
  · rw [bind_of_ok hrun, bind_of_ok hrun']
    have hinside := hbody k t d ht
    generalize hend : body t = u at hinside
    generalize hend' : body { t with scope := d } = u' at hinside
    cases hinside with
    | ok x hc =>
      rw [ensuring_of_ok hend, ensuring_of_ok hend']
      exact .ok x hc.leave
    | error q hc =>
      rw [ensuring_of_error hend, ensuring_of_error hend']
      exact .error q hc.leave
    | leftOpen f hc =>
      rw [ensuring_of_error hend, ensuring_of_error hend']
      exact .leftOpen f hc.leave
  · rw [bind_of_error hrun, bind_of_error hrun']
    exact .leftOpen f ht

theorem collecting {body : Render Unit} (hbody : Parallel base k body) :
    Parallel base k (collecting body) := by
  intro s c h
  have hapart := hbody (apart s) c h
  generalize hend : body (apart s) = u at hapart
  generalize hend' : body { apart s with scope := c } = u' at hapart
  have hend' : body (apart { s with scope := c }) = u' := hend'
  cases hapart with
  | ok x hc =>
    rw [collecting_of_ok hend, collecting_of_ok hend']
    exact .ok _ hc
  | error q hc =>
    rw [collecting_of_error hend, collecting_of_error hend']
    exact .error q hc
  | leftOpen f hc =>
    rw [collecting_of_error hend, collecting_of_error hend']
    exact .leftOpen f hc

/-- The steps of a block run parallel, whether the further level is the innermost one or not. -/
theorem blockSteps {e : Evaluator} (he : e.ByName) (base : Scope) (k : Nat) :
    BlockSteps e (@ParallelInside base) (@Parallel base k) where
  pure := pure
  bind := bind
  endless := fun _ _ h => .error _ h
  act := act
  evaluation := evaluation he
  report _ _ _ := fun _ _ h => .ok () h
  recordError := recordError
  emit := emit
  nested := nested
  collecting hbody := fun k => collecting (hbody k)

theorem filterLine {e : Evaluator} (he : e.ByName) (text : String) :
    Parallel base k (filterLine e text) := by
  intro s c h
  have hfilter : c.filterOrFail e text = s.scope.filterOrFail e text := h.filterOrFail_eq he text
  cases ho : s.scope.filterOrFail e text s.machine with
  | ok o m =>
    have ho' : c.filterOrFail e text s.machine = .ok o m := hfilter ▸ ho
    rw [filterLine_of_ok ho, filterLine_of_ok (s := { s with scope := c }) ho']
    exact .ok _ h
  | error f m =>
    have ho' : c.filterOrFail e text s.machine = .error f m := hfilter ▸ ho
    rw [filterLine_of_error ho, filterLine_of_error (s := { s with scope := c }) ho']
    exact .ok _ (h.error _)

theorem executeNode {e : Evaluator} (he : e.ByName) (text : String) :
    Parallel base (k + 1) (executeNode e text) := by
  intro s c h
  have hexecute : e.execute c.bindings text = e.execute s.scope.bindings text :=
    congrFun (he.execute h.agree h.innermost.1) text
  cases hx : e.execute s.scope.bindings text s.machine with
  | ok r m =>
    have hx' : e.execute c.bindings text s.machine = .ok r m := hexecute ▸ hx
    rw [executeNode_of_ok hx, executeNode_of_ok (s := { s with scope := c }) hx']
    exact .ok _ (h.rebound r.2)
  | error f m =>
    have hx' : e.execute c.bindings text s.machine = .error f m := hexecute ▸ hx
    rw [executeNode_of_error hx, executeNode_of_error (s := { s with scope := c }) hx']
    exact .ok _ (h.error _)

theorem perform (description : String) (actions : List Action) :
    Parallel base (k + 1) (perform description actions) := by
  induction actions with
  | nil => exact pure ()
  | cons a actions ih =>
    intro s c h
    rcases a.apply_cases with ⟨g, hg⟩ | ⟨f, hf⟩
    · rw [perform_cons_of_ok (hg s.scope),
        perform_cons_of_ok (s := { s with scope := c }) (hg c), h.innermost.2]
      exact ih { s with scope := { s.scope with frame := g s.scope.frame } } _ (h.withFrame _)
    · rw [perform_cons_of_error (hf s.scope),
        perform_cons_of_error (s := { s with scope := c }) (hf c)]
      exact .ok _ (h.error _)

end Parallel

/-- Every tree is rendered in parallel where the further level is not the innermost one. -/
theorem ParallelInside.treeSteps {e : Evaluator} (he : e.ByName) (base : Scope) :
    TreeSteps e (@ParallelInside base) where
  pure x := fun k => (Parallel.blockSteps he base (k + 1)).pure x
  bind ha hr := fun k => (Parallel.blockSteps he base (k + 1)).bind (ha k) fun x => hr x k
  endless := fun k => (Parallel.blockSteps he base (k + 1)).endless
  act a := fun k => (Parallel.blockSteps he base (k + 1)).act a
  evaluation text := fun k => (Parallel.blockSteps he base (k + 1)).evaluation text
  report r l message := fun k => (Parallel.blockSteps he base (k + 1)).report r l message
  recordError message := fun k => (Parallel.blockSteps he base (k + 1)).recordError message
  emit text := fun k => (Parallel.blockSteps he base (k + 1)).emit text
  nested name v hbody := fun k => (Parallel.blockSteps he base (k + 1)).nested name v hbody
  collecting hbody := fun k => Parallel.collecting (hbody k)
  filterLine text := fun _ => Parallel.filterLine he text
  executeNode text := fun _ => Parallel.executeNode he text
  perform description actions := fun _ => Parallel.perform description actions

/-! ## Bystanders -/

/-- Nodes that leave the innermost level as it is: all but statements and operations with actions.
What is inside a block does not matter. -/
def Node.bystander : Node → Bool
  | .line _ | .block .. | .insert .. | .error _ | .operation _ none => true
  | _ => false

/-- Bystanders are rendered in parallel even right inside the further level. -/
theorem Parallel.renderAll {e : Evaluator} (he : e.ByName) (base : Scope) (k limit : Nat)
    {ns : List Node} (hns : ∀ n ∈ ns, n.bystander = true) :
    Parallel base k (Node.renderAll e limit ns) := by
  have hsteps := Parallel.blockSteps he base k
  induction ns with
  | nil => exact Parallel.pure ()
  | cons n ns ih =>
    refine .bind ?_ fun _ => ih fun m hm => hns m (List.mem_cons_of_mem n hm)
    have hn := hns n List.mem_cons_self
    cases n with
    | line text => exact hsteps.bind (Parallel.filterLine he text) hsteps.emit
    | block loop ms =>
      exact hsteps.blockNode ((ParallelInside.treeSteps he base).renderAll limit ms) limit loop
    | insert text indent => exact hsteps.insertNode text indent
    | error message => exact hsteps.recordError message
    | operation description actions =>
      cases actions with
      | none => exact Parallel.pure ()
      | some _ => cases hn
    | _ => cases hn

end Stencil
