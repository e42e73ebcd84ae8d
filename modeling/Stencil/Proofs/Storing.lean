import Stencil.Proofs.Composition
import Stencil.Proofs.Rendering
/-!
# Stencil.Proofs.Storing -- statements that write names

Executing a statement gives a value and the innermost layer as it is from then on. The layers could
also be written in place, name after name, and what had been written before a failure would stay
written. It would make no difference: whatever can fail in a statement comes before the first name is
written, and the innermost layer is the only one that is written.

So a statement that fails has changed no layer. One that succeeds has put its value for its targets
in the innermost layer, whether they were bound there, further out or nowhere, and changed nothing
else; a statement without targets, and the variables of a comprehension, leave all layers as they
are.
-/

namespace Stencil.Expr

variable {b : Bindings} {text : String} {m m' : Machine} {f : Failure} {v : Value}

/-! ## Layers that are written -/

namespace Layer

theorem get?_cons (n x : String) (w : Value) (l : Layer) :
    Layer.get? ((n, w) :: l) x = if x = n then some w else l.get? x := by
  rw [get?, List.lookup_cons]
  by_cases h : x = n
  · rw [if_pos h, beq_iff_eq.mpr h]
  · rw [if_neg h, beq_false_of_ne h]
    rfl

theorem get?_put (l : Layer) (n x : String) (v : Value) :
    (l.put n v).get? x = if x = n then some v else l.get? x := by
  induction l with
  | nil => exact get?_cons n x v []
  | cons p l ih =>
    obtain ⟨k, w⟩ := p
    rw [put]
    by_cases hk : k = n
    · subst hk
      rw [if_pos (beq_self_eq_true k), get?_cons, get?_cons]
      split <;> rfl
    · rw [if_neg (by simpa using hk), get?_cons, get?_cons, ih]
      by_cases hx : x = k
      · rw [if_pos hx, if_pos hx, if_neg (hx ▸ hk)]
      · rw [if_neg hx, if_neg hx]

/-- Names that are bound to one value, one after the other. -/
def putAll (l : Layer) (names : List String) (v : Value) : Layer :=
  names.foldl (fun l n => l.put n v) l

theorem get?_putAll (l : Layer) (names : List String) (v : Value) (x : String) :
    (l.putAll names v).get? x = if x ∈ names then some v else l.get? x := by
  induction names generalizing l with
  | nil => rfl
  | cons n names ih =>
    have hrest : (l.putAll (n :: names) v).get? x = ((l.put n v).putAll names v).get? x := rfl
    rw [hrest, ih, get?_put]
    by_cases hx : x = n <;> by_cases hmem : x ∈ names <;> simp [hx, hmem]

end Layer

/-- The innermost layer of `b'` is that of `b` with a value for some names, and the other layers are
the same. -/
structure Bindings.Written (b : Bindings) (names : List String) (v : Value) (b' : Bindings) :
    Prop where
  written : ∀ n ∈ names, b'.inner.get? n = some v
  kept : ∀ n ∉ names, b'.inner.get? n = b.inner.get? n
  outer : b'.outer = b.outer

theorem Bindings.written_putAll (b : Bindings) (names : List String) (v : Value) :
    b.Written names v ⟨b.inner.putAll names v, b.outer⟩ where
  written n hn := by rw [Layer.get?_putAll, if_pos hn]
  kept n hn := by rw [Layer.get?_putAll, if_neg hn]
  outer := rfl

/-! ## Execution in place -/

/-- Layers of names, and the machine. -/
structure Workspace where
  bindings : Bindings
  machine : Machine

/-- An action that may write names. What it has written before it fails stays written. -/
abbrev InPlace (α : Type) := EStateM Failure Workspace α

/-- Act on the machine, and only look at the names. -/
def reading {α : Type} (a : Bindings → Act α) : InPlace α := fun w =>
  match a w.bindings w.machine with
  | .ok v m => .ok v { w with machine := m }
  | .error f m => .error f { w with machine := m }

/-- Write a name in the innermost layer. -/
def write (v : Value) (name : String) : InPlace Unit :=
  modify fun w => { w with bindings := w.bindings.put name v }

/-- Execute a statement in place. -/
def executeIn (text : String) : Statement → InPlace Value
  | .assign targets t => do
    let names ← reading fun _ => targets.mapM (targetName text)
    let v ← reading fun b => evaluateTerm b text t
    names.forM (write v)
    return v
  | .augment target op t => do
    let name ← reading fun _ => targetName text target
    if op == .matMul then throw (.expression text "unsupported operator: MatMult")
    match (← get).bindings.get? name with
    | none => throw (.expression text ("'" ++ name ++ "' is not defined"))
    | some _ =>
      let operand ← reading fun b => evaluateTerm b text t
      -- The name is looked up again when the operand is known.
      let v ← reading fun b => asFailureOf text (applyBinary op ((b.get? name).getD .none) operand)
      write v name
      return v
  | .expression t => reading fun b => evaluateTerm b text t
  | .absent kind => throw (.expression text ("unsupported statement: " ++ kind.name))

/-- Execute a statement text in place. -/
def executeInPlace (text : String) : InPlace Value := do
  executeIn text (← reading fun _ => readStatement text)

/-- Execute a statement text in place, within limits of its reader. -/
def executeInPlaceWithin (w : Limits) (text : String) : InPlace Value := do
  executeIn text (← reading fun _ => readWithin w (Text.trimString text) (readStatement text))

/-- What is left when the innermost layer is put in its place in the end, if there is one. -/
def stored (b : Bindings) :
    EStateM.Result Failure Machine (Value × Layer) → EStateM.Result Failure Workspace Value
  | .ok (v, inner) m => .ok v ⟨⟨inner, b.outer⟩, m⟩
  | .error f m => .error f ⟨b, m⟩

section Reading

variable {α : Type} {a : Bindings → Act α}

/-- An action that only looks at names leaves them as they are, and then what follows counts. -/
theorem reading_bind {k : α → InPlace Value} {k' : α → Act (Value × Layer)}
    (h : ∀ x m', k x ⟨b, m'⟩ = stored b (k' x m')) (m : Machine) :
    (reading a >>= k) ⟨b, m⟩ = stored b ((a b >>= k') m) := by
  cases hrun : a b m with
  | ok x m' =>
    have hread : reading a ⟨b, m⟩ = .ok x ⟨b, m'⟩ := by rw [reading, hrun]
    rw [bind_of_ok hread, bind_of_ok hrun, h]
  | error f m' =>
    have hread : reading a ⟨b, m⟩ = .error f ⟨b, m'⟩ := by rw [reading, hrun]
    rw [bind_of_error hread, bind_of_error hrun, stored]

theorem bindings_reading (a : Bindings → Act α) (b : Bindings) (m : Machine) :
    (ended (reading a ⟨b, m⟩)).bindings = b := by
  rw [reading]
  cases a b m <;> rfl

end Reading

theorem forM_write (names : List String) (v : Value) (b : Bindings) (m : Machine) :
    names.forM (write v) ⟨b, m⟩ = .ok () ⟨⟨b.inner.putAll names v, b.outer⟩, m⟩ := by
  induction names generalizing b with
  | nil => rfl
  | cons n names ih =>
    have hfirst : write v n ⟨b, m⟩ = .ok () ⟨b.put n v, m⟩ := rfl
    show (write v n >>= fun _ => names.forM (write v)) ⟨b, m⟩ = _
    rw [bind_of_ok hfirst]
    exact ih (b.put n v)

/-- A statement that is executed in place leaves what it leaves when the layer is put in its place in
the end. -/
theorem executeIn_eq (text : String) (p : Statement) (b : Bindings) (m : Machine) :
    executeIn text p ⟨b, m⟩ = stored b (executeStatement b text p m) := by
  cases p with
  | assign targets t =>
    refine reading_bind (fun names m₁ => reading_bind (fun v m₂ => ?_) m₁) m
    rw [bind_of_ok (forM_write names v b m₂)]
    rfl
  | augment target op t =>
    refine reading_bind (fun name m₁ => ?_) m
    by_cases hop : op = .matMul
    · subst hop
      rfl
    · have hsign : ¬(op == .matMul) = true := by simpa using hop
      show (if _ then _ else _ : InPlace Value) _ = stored b ((if _ then _ else _ : Act _) _)
      rw [if_neg hsign, if_neg hsign]
      dsimp only
      rw [get_bind]
      dsimp only
      cases hold : b.get? name with
      | none => rfl
      | some old =>
        refine reading_bind (fun operand m₂ => ?_) m₁
        -- The operand has not written the name.
        have hagain : (b.get? name).getD .none = old := by rw [hold, Option.getD_some]
        rw [← hagain]
        exact reading_bind (fun w m₃ => rfl) m₂
  | expression t =>
    have hwhole : executeIn text (.expression t) =
        reading (fun b => evaluateTerm b text t) >>= fun v => pure v := (bind_pure _).symm
    rw [hwhole]
    exact reading_bind (fun v m₁ => rfl) m
  | absent kind => rfl

theorem executeInPlaceWithin_eq (w : Limits) (text : String) (b : Bindings) (m : Machine) :
    executeInPlaceWithin w text ⟨b, m⟩ =
      stored b ((Evaluator.standardWithin w).execute b text m) :=
  reading_bind (fun p m₁ => executeIn_eq text p b m₁) m

theorem executeInPlace_eq (text : String) (b : Bindings) (m : Machine) :
    executeInPlace text ⟨b, m⟩ = stored b (Evaluator.standard.execute b text m) :=
  executeInPlaceWithin_eq unlimited text b m

/-- What fails leaves the layers as they were. -/
theorem bindings_of_stored {r : EStateM.Result Failure Machine (Value × Layer)} {w : Workspace}
    (h : stored b r = .error f w) : w.bindings = b := by
  cases r with
  | ok p m => cases h
  | error g m =>
    cases h
    rfl

/-! ## What statements leave -/

/-- A text is read as a statement. -/
def ReadsAs (text : String) (p : Statement) : Prop := ∀ m, readStatement text m = .ok p m

/-- Reading a text does not take a machine. -/
theorem readStatement_eq (text : String) :
    (∃ p, readStatement text = pure p) ∨ ∃ f, readStatement text = throw f := by
  unfold readStatement
  dsimp only
  split
  · exact .inr ⟨_, rfl⟩
  · split
    · exact .inr ⟨_, rfl⟩
    · exact .inl ⟨_, rfl⟩
    · exact .inr ⟨_, rfl⟩

theorem readsAs_of_ok {p : Statement} (h : readStatement text m = .ok p m') :
    m' = m ∧ ReadsAs text p := by
  rcases readStatement_eq text with ⟨q, hq⟩ | ⟨f, hf⟩
  · rw [hq] at h
    cases h
    exact ⟨rfl, fun m₁ => by rw [hq]; rfl⟩
  · rw [hf] at h
    cases h

/-- Targets that are taken are names. -/
theorem mapM_targetName_eq_ok {targets : List Term} {names : List String}
    (h : targets.mapM (targetName text) m = .ok names m') : targets = names.map .name := by
  induction targets generalizing names m with
  | nil =>
    cases h
    rfl
  | cons target targets ih =>
    obtain ⟨name, m₁, rest, hfirst, hrest, rfl⟩ := mapM_cons_eq_ok h
    cases target with
    | name id =>
      cases hfirst
      rw [List.map_cons, ← ih hrest]
    | _ => cases hfirst

/-- What a statement that succeeds has done to layers of names, with the value that it gives. -/
inductive Bindings.Effect (b : Bindings) : Statement → Value → Bindings → Prop
  /-- An expression leaves them as they are. -/
  | expression (t : Term) (v : Value) : Effect b (.expression t) v b
  /-- The targets of an assignment are names, and have the value. -/
  | assign {names : List String} (t : Term) {v : Value} {b' : Bindings}
      (h : b.Written names v b') : Effect b (.assign (names.map .name) t) v b'
  /-- The target of an augmented assignment is a name that is bound, somewhere. -/
  | augment {name : String} (op : BinaryOp) (t : Term) {v : Value} {b' : Bindings}
      (hbound : ∃ l ∈ b.layers, (l.get? name).isSome) (h : b.Written [name] v b') :
      Effect b (.augment (.name name) op t) v b'

theorem Bindings.get?_isSome_iff {b : Bindings} {name : String} :
    (b.get? name).isSome ↔ ∃ l ∈ b.layers, (l.get? name).isSome := by
  rw [get?]
  induction b.layers with
  | nil => simp [lookIn]
  | cons l ls ih =>
    rw [lookIn]
    cases hl : l.get? name with
    | some v => simp [hl]
    | none => simpa [hl] using ih

theorem effect_of_ok {p : Statement} {inner : Layer}
    (h : executeStatement b text p m = .ok (v, inner) m') : b.Effect p v ⟨inner, b.outer⟩ := by
  cases p with
  | expression t =>
    obtain ⟨w, m₁, -, h⟩ := bind_eq_ok_iff.mp h
    cases h
    exact .expression t v
  | assign targets t =>
    obtain ⟨names, m₁, hnames, h⟩ := bind_eq_ok_iff.mp h
    obtain ⟨w, m₂, -, h⟩ := bind_eq_ok_iff.mp h
    cases h
    rw [mapM_targetName_eq_ok hnames]
    exact .assign t (b.written_putAll names v)
  | augment target op t =>
    obtain ⟨name, m₁, hname, h⟩ := bind_eq_ok_iff.mp h
    cases target with
    | name id =>
      cases hname
      change (if _ then _ else _ : Act (Value × Layer)) _ = _ at h
      split at h
      · cases h
      · cases hold : b.get? name with
        | none =>
          rw [hold] at h
          cases h
        | some old =>
          rw [hold] at h
          obtain ⟨operand, m₂, -, h⟩ := bind_eq_ok_iff.mp h
          obtain ⟨w, m₃, -, h⟩ := bind_eq_ok_iff.mp h
          cases h
          have hbound : (b.get? name).isSome := by rw [hold, Option.isSome_some]
          exact .augment op t (Bindings.get?_isSome_iff.mp hbound) (b.written_putAll [name] v)
    | _ => cases hname
  | absent kind => cases h

/-! ## Executing texts -/

/-- A session keeps the layers that executing in place leaves, whether that fails or not. -/
theorem bindings_executeNode (text : String) (s : Session) :
    (ended (Render.executeNode .standard text s)).scope.bindings =
      (ended (executeInPlace text ⟨s.scope.bindings, s.machine⟩)).bindings := by
  rw [executeInPlace_eq]
  cases hrun : Evaluator.standard.execute s.scope.bindings text s.machine with
  | ok r m =>
    rw [Render.executeNode_of_ok hrun]
    rfl
  | error f m =>
    rw [Render.executeNode_of_error hrun]
    rfl

theorem scope_evaluation (e : Evaluator) (text : String) (s : Session) :
    (ended (Render.evaluation e text s)).scope = s.scope := by
  rw [Render.evaluation, bind_of_ok (Render.currentScope_apply s)]
  cases hrun : s.scope.evaluate e text s.machine with
  | ok v m => rw [Render.attempt_of_ok hrun, ended_ok]
  | error f m => rw [Render.attempt_of_error hrun, ended_ok]

/-- What executing a text does to layers of names. -/
structure Executes (b : Bindings) (text : String) (m : Machine) : Prop where
  /-- Executing in place leaves what the evaluator leaves. -/
  inPlace : executeInPlace text ⟨b, m⟩ = stored b (Evaluator.standard.execute b text m)
  /-- What fails has written no name. -/
  failed : ∀ {f w}, executeInPlace text ⟨b, m⟩ = .error f w → w.bindings = b
  /-- What succeeds has written its targets in the innermost layer, and nothing else. -/
  succeeded : ∀ {v w}, executeInPlace text ⟨b, m⟩ = .ok v w →
    ∃ p, ReadsAs text p ∧ b.Effect p v w.bindings
  /-- A session keeps the layers that are left. -/
  kept : ∀ s : Session, s.scope.bindings = b → s.machine = m →
    (ended (Render.executeNode .standard text s)).scope.bindings =
      (ended (executeInPlace text ⟨b, m⟩)).bindings
  /-- Evaluating the text writes no name, whatever it is read as, and leaves the scope of a session as
  it is. -/
  evaluated : (ended (reading (Evaluator.standard.evaluate · text) ⟨b, m⟩)).bindings = b ∧
    ∀ s : Session, (ended (Render.evaluation .standard text s)).scope = s.scope

/-- **Statements write all their targets or nothing, and only in the innermost layer.** -/
theorem executes (b : Bindings) (text : String) (m : Machine) : Executes b text m where
  inPlace := executeInPlace_eq text b m
  failed {f w} h := bindings_of_stored ((executeInPlace_eq text b m).symm.trans h)
  succeeded {v w} h := by
    rw [executeInPlace_eq] at h
    cases hrun : Evaluator.standard.execute b text m with
    | ok r m' =>
      rw [hrun] at h
      cases h
      obtain ⟨p, m₁, hread, hexecute⟩ := bind_eq_ok_iff.mp hrun
      exact ⟨p, (readsAs_of_ok hread).2, effect_of_ok hexecute⟩
    | error g m' =>
      rw [hrun] at h
      cases h
  kept s hb hm := by
    rw [bindings_executeNode, hb, hm]
  evaluated := ⟨bindings_reading _ b m, scope_evaluation .standard text⟩

end Stencil.Expr
