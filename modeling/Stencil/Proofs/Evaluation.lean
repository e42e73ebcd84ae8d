import Stencil.Expr.Evaluator
import Stencil.Proofs.Calls
/-!
# Stencil.Proofs.Evaluation -- evaluations lose nothing

Terms are made of operators and calls, and comprehensions draw from iterators while they fill the
collections they make. So evaluating a term is steady, by induction on the term, and with it
everything that the standard evaluator does with a text.
-/

namespace Stencil.Expr

variable {α : Type} {v w : Value} {r : Ref} {name : String}

/-! ## Names, attributes and literals -/

section Names

variable {c : Context}

@[grind .]
theorem steady_notAvailable : Steady (notAvailable name : Act α) := steady_fault

@[grind .]
theorem steady_nameValue {locals : List Layer} : Steady (nameValue c locals name) := by
  unfold nameValue
  grind

@[grind .]
theorem steady_checkAttribute : Steady (checkAttribute name) := by
  unfold checkAttribute
  grind

@[grind .]
theorem steady_attributeValue : Steady (attributeValue c v name) := by
  unfold attributeValue
  grind

@[grind .]
theorem steady_applyComparison {op : CompareOp} : Steady (applyComparison op v w) := by
  unfold applyComparison
  grind

@[grind .]
theorem steady_callNamed {positional : List Value} {named : List (Option String × Value)} :
    Steady (callNamed v positional named) := by
  unfold callNamed
  grind

@[grind .]
theorem steady_literalValue : Steady (literalValue v) := by
  unfold literalValue
  grind

end Names

/-! ## Comprehensions -/

mutual

theorem steady_bindTarget (l : Layer) (v : Value) (t : Term) : Steady (bindTarget l v t) := by
  cases t with
  | tuple ts =>
    unfold bindTarget
    exact steady_iterRef.bind fun _ => steady_bindTargets _ _ ts
  | list ts =>
    unfold bindTarget
    exact steady_iterRef.bind fun _ => steady_bindTargets _ _ ts
  | _ =>
    unfold bindTarget
    grind

theorem steady_bindTargets (l : Layer) (r : Ref) (ts : List Term) :
    Steady (bindTargets l r ts) := by
  cases ts with
  | nil =>
    unfold bindTargets
    exact .pure l
  | cons t ts =>
    unfold bindTargets
    refine .bind (steady_next r) fun found => ?_
    cases found with
    | none => exact .pure l
    | some v => exact (steady_bindTarget l v t).bind fun _ => steady_bindTargets _ r ts

end

theorem steady_countStep : Steady countStep := by
  refine .of_cells fun m => ?_
  show (ended ((if m.steps + 1 > stepLimit then refuse _ else pure () : Act Unit)
    { m with steps := m.steps + 1 })).cells = m.cells
  split <;> rfl

theorem steady_forEach {body : Layer → Value → Act Layer} (h : ∀ l v, Steady (body l v)) (r : Ref)
    (fuel : Nat) (l : Layer) : Steady (forEach r body fuel l) := by
  induction fuel generalizing l with
  | zero => exact .pure l
  | succ fuel ih =>
    unfold forEach
    grind [steady_countStep]

/-! ## Terms -/

section Terms

variable (c : Context)

mutual

theorem steady_evalTerm (locals : List Layer) : ∀ t : Term, Steady (evalTerm c locals t)
  | .const v => by
    simp only [evalTerm]
    exact steady_literalValue
  | .name id => by
    simp only [evalTerm]
    exact steady_nameValue
  | .unary op t => by
    have ht := steady_evalTerm locals t
    simp only [evalTerm]
    grind
  | .binary op t u => by
    have ht := steady_evalTerm locals t
    have hu := steady_evalTerm locals u
    simp only [evalTerm]
    grind
  | .boolean isAnd ts => by
    simp only [evalTerm]
    exact steady_evalJunction locals isAnd ts
  | .compare first rest => by
    simp only [evalTerm]
    exact (steady_evalTerm locals first).bind fun _ => steady_evalComparisons locals rest _
  | .conditional test yes no => by
    have htest := steady_evalTerm locals test
    have hyes := steady_evalTerm locals yes
    have hno := steady_evalTerm locals no
    simp only [evalTerm]
    grind
  | .call f args named => by
    have hargs := steady_evalTerms locals args
    have hnamed := steady_evalNamed locals named
    cases f with
    | name id =>
      simp only [evalTerm]
      grind
    | «attribute» t name =>
      have ht := steady_evalTerm locals t
      simp only [evalTerm]
      grind
    | _ =>
      simp only [evalTerm]
      exact steady_refuse
  | .subscript t k => by
    have ht := steady_evalTerm locals t
    have hk := steady_evalTerm locals k
    simp only [evalTerm]
    grind
  | .slice lower upper step => by
    have hlower := steady_evalOption locals lower
    have hupper := steady_evalOption locals upper
    have hstep := steady_evalOption locals step
    simp only [evalTerm]
    grind
  | .attribute t name => by
    have ht := steady_evalTerm locals t
    simp only [evalTerm]
    grind
  | .joined parts => by
    have hparts := steady_evalParts locals 0 parts
    simp only [evalTerm]
    grind
  | .formatted t none => by
    simp only [evalTerm]
    exact steady_evalTerm locals t
  | .formatted t (some format) => by
    have ht := steady_evalTerm locals t
    have hformat := steady_evalTerm locals format
    simp only [evalTerm]
    grind
  | .dict items => by
    simp only [evalTerm]
    exact (steady_alloc _).bind fun r => (steady_evalEntries locals r items).bind fun _ => .pure _
  | .list ts => by
    have hts := steady_evalElements locals #[] ts
    simp only [evalTerm]
    grind
  | .tuple ts => by
    have hts := steady_evalTerms locals ts
    simp only [evalTerm]
    grind
  | .set ts => by
    have hts := steady_evalMembers locals {} ts
    simp only [evalTerm]
    grind
  | .starred t => by
    simp only [evalTerm]
    exact steady_notAvailable
  | .comprehension _ element clauses => by
    simp only [evalTerm]
    refine (steady_alloc _).bind fun r => .bind (.discard ?_) fun _ => .pure _
    exact steady_evalClauses locals [] clauses _ fun l =>
      (steady_evalTerm (l :: locals) element).bind fun _ => steady_modifyList _ _
  | .dictComprehension key value clauses => by
    simp only [evalTerm]
    refine (steady_alloc _).bind fun r => .bind (.discard ?_) fun _ => .pure _
    exact steady_evalClauses locals [] clauses _ fun l =>
      (steady_evalTerm (l :: locals) key).bind fun _ =>
        (steady_evalTerm (l :: locals) value).bind fun _ => steady_dictPut
  | .absent kind => by
    simp only [evalTerm]
    exact steady_notAvailable

theorem steady_evalTerms (locals : List Layer) : ∀ ts : List Term, Steady (evalTerms c locals ts)
  | [] => by
    simp only [evalTerms]
    exact .pure _
  | t :: ts => by
    simp only [evalTerms]
    refine (steady_evalTerm locals t).bind fun _ => ?_
    exact (steady_evalTerms locals ts).bind fun _ => .pure _

theorem steady_evalOption (locals : List Layer) :
    ∀ t : Option Term, Steady (evalOption c locals t)
  | none => by
    simp only [evalOption]
    exact .pure _
  | some t => by
    simp only [evalOption]
    exact steady_evalTerm locals t

theorem steady_evalJunction (locals : List Layer) (isAnd : Bool) :
    ∀ ts : List Term, Steady (evalJunction c locals isAnd ts)
  | [] => by
    simp only [evalJunction]
    exact .pure _
  | [t] => by
    simp only [evalJunction]
    exact steady_evalTerm locals t
  | t :: u :: ts => by
    have ht := steady_evalTerm locals t
    have hrest := steady_evalJunction locals isAnd (u :: ts)
    simp only [evalJunction]
    grind

theorem steady_evalComparisons (locals : List Layer) :
    ∀ (rest : List Comparand) (left : Value), Steady (evalComparisons c locals left rest)
  | [], left => by
    simp only [evalComparisons]
    exact .pure _
  | [.mk op t], left => by
    simp only [evalComparisons]
    exact (steady_evalTerm locals t).bind fun _ => steady_applyComparison
  | .mk op t :: d :: rest, left => by
    have ht := steady_evalTerm locals t
    have hrest := steady_evalComparisons locals (d :: rest)
    simp only [evalComparisons]
    grind

theorem steady_evalNamed (locals : List Layer) :
    ∀ named : List Named, Steady (evalNamed c locals named)
  | [] => by
    simp only [evalNamed]
    exact .pure _
  | .mk n t :: rest => by
    simp only [evalNamed]
    exact (steady_evalTerm locals t).bind fun _ =>
      (steady_evalNamed locals rest).bind fun _ => .pure _

theorem steady_evalParts (locals : List Layer) (size : Nat) :
    ∀ ts : List Term, Steady (evalParts c locals size ts)
  | [] => by
    simp only [evalParts]
    exact .pure _
  | t :: ts => by
    have ht := steady_evalTerm locals t
    have hrest := fun size => steady_evalParts locals size ts
    simp only [evalParts]
    grind

theorem steady_evalElements (locals : List Layer) (so : Array Value) :
    ∀ ts : List Term, Steady (evalElements c locals so ts)
  | [] => by
    simp only [evalElements]
    exact .pure _
  | t :: ts => by
    have hrest := fun so => steady_evalElements locals so ts
    -- A starred term is run through; any other gives one element.
    cases t with
    | starred t =>
      simp only [evalElements]
      exact (steady_evalTerm locals t).bind fun _ => steady_collect.bind fun _ => hrest _
    | _ =>
      simp only [evalElements]
      exact (steady_evalTerm locals _).bind fun _ => hrest _

theorem steady_evalMembers (locals : List Layer) (so : SetTable) :
    ∀ ts : List Term, Steady (evalMembers c locals so ts)
  | [] => by
    simp only [evalMembers]
    exact .pure _
  | t :: ts => by
    simp only [evalMembers]
    exact (steady_evalTerm locals t).bind fun _ =>
      steady_memberFor.bind fun _ => steady_evalMembers locals _ ts

theorem steady_evalEntries (locals : List Layer) (r : Ref) :
    ∀ items : List Item, Steady (evalEntries c locals r items)
  | [] => by
    simp only [evalEntries]
    exact .pure _
  | .entry k t :: rest => by
    simp only [evalEntries]
    exact (steady_evalTerm locals t).bind fun _ => (steady_evalTerm locals k).bind fun _ =>
      steady_dictPut.bind fun _ => steady_evalEntries locals r rest
  | .spread t :: rest => by
    simp only [evalEntries]
    exact (steady_evalTerm locals t).bind fun _ =>
      (Steady.discard (steady_callMethod fun _ _ => .pure _)).bind fun _ =>
        steady_evalEntries locals r rest

theorem steady_evalConditions (locals : List Layer) :
    ∀ ts : List Term, Steady (evalConditions c locals ts)
  | [] => by
    simp only [evalConditions]
    exact .pure _
  | t :: ts => by
    have ht := steady_evalTerm locals t
    have hrest := steady_evalConditions locals ts
    simp only [evalConditions]
    grind

theorem steady_evalClauses (locals : List Layer) (l : Layer) :
    ∀ (clauses : List Clause) (emit : Layer → Act Unit), (∀ l, Steady (emit l)) →
      Steady (evalClauses c locals l clauses emit)
  | [], emit, hemit => by
    simp only [evalClauses]
    exact (hemit l).bind fun _ => .pure _
  | .mk target source conditions :: rest, emit, hemit => by
    have hconditions := fun l => steady_evalConditions (l :: locals) conditions
    -- The inner clauses run in each round of this one, over whatever it has bound.
    have hrest := fun l => steady_evalClauses locals l rest emit hemit
    simp only [evalClauses]
    refine (steady_evalTerm (l :: locals) source).bind fun _ => steady_iterRef.bind fun r =>
      steady_forEach (fun l v => ?_) r _ l
    refine (steady_bindTarget l v target).bind fun l => (hconditions l).bind fun hold => ?_
    split
    · exact hrest l
    · exact .pure l

end

theorem steady_evalStatement (p : Statement) : Steady (evalStatement c p) := by
  cases p with
  | expression t => exact steady_evalTerm c [] t
  | assign targets t => exact steady_evalTerm c [] t
  | augment target op t => exact steady_evalTerm c [] t
  | absent kind =>
    unfold evalStatement
    grind

end Terms

/-! ## Texts -/

section Evaluators

variable {w : Limits} {b : Bindings} {text : String}

@[grind .]
theorem steady_reasonOf (f : Failure) : Steady (reasonOf f) := by
  unfold reasonOf
  grind

theorem steady_asFailureOf {a : Act α} (h : Steady a) : Steady (asFailureOf text a) :=
  h.tryCatch fun f => (steady_reasonOf f).bind fun _ => .throw _

theorem steady_readExpression : Steady (readExpression text) := by
  unfold readExpression
  grind

theorem steady_restart : Steady restart := .of_cells fun _ => rfl

theorem steady_readWithin {read : Act Statement} (h : Steady read) :
    Steady (readWithin w text read) := by
  unfold readWithin
  grind

theorem steady_evaluateWithin : Steady (evaluateWithin w b text) := by
  refine steady_asFailureOf (steady_restart.bind fun _ => ?_)
  exact (steady_readWithin steady_readExpression).bind fun p => steady_evalStatement _ p

theorem steady_evaluateTerm (t : Term) : Steady (evaluateTerm b text t) :=
  steady_asFailureOf (steady_restart.bind fun _ => steady_evalTerm _ [] t)

theorem steady_readStatement : Steady (readStatement text) := by
  unfold readStatement
  grind

@[grind .]
theorem steady_targetName (t : Term) : Steady (targetName text t) := by
  unfold targetName
  grind

theorem steady_executeStatement (p : Statement) : Steady (executeStatement b text p) := by
  have hterm (t : Term) : Steady (evaluateTerm b text t) := steady_evaluateTerm t
  have hbinary (op : BinaryOp) (v w : Value) : Steady (asFailureOf text (applyBinary op v w)) :=
    steady_asFailureOf steady_applyBinary
  unfold executeStatement
  split <;> grind

theorem steady_executeWithin : Steady (executeWithin w b text) :=
  (steady_readWithin steady_readStatement).bind fun p => steady_executeStatement p

/-- An evaluator whose actions are steady. -/
structure Evaluator.Steady (e : Evaluator) : Prop where
  evaluate : ∀ b text, Expr.Steady (e.evaluate b text)
  execute : ∀ b text, Expr.Steady (e.execute b text)

/-- **Evaluations lose nothing.** Whatever text the standard evaluator is given, and however the
evaluation ends, the cells keep their kinds and no iterator goes back. -/
theorem Evaluator.standardWithin_steady (w : Limits) : (Evaluator.standardWithin w).Steady where
  evaluate _ _ := steady_evaluateWithin
  execute _ _ := steady_executeWithin

end Evaluators

end Stencil.Expr
