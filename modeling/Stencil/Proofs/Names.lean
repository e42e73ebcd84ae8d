import Stencil.Substitution
/-!
# Stencil.Proofs.Names -- bindings as names and their values

How many layers bindings have, and in which of them a name is bound, cannot be told from the value
of a term: it only depends on the values of names. A statement also writes the innermost layer, so
what it does depends on that layer as well. The standard evaluator and the table evaluators see
bindings in this way and in no other, and so do rules with any such evaluator.
-/

namespace Stencil

namespace Expr

/-- The same names have the same values. -/
def Bindings.Agree (b b' : Bindings) : Prop := ∀ name, b'.get? name = b.get? name

/-- Bindings that agree still do when the same layer is added to both. -/
theorem Bindings.Agree.push {b b' : Bindings} (h : b.Agree b') (l : Layer) :
    (b.push l).Agree (b'.push l) := by
  intro name
  have hname : lookIn b'.layers name = lookIn b.layers name := h name
  show lookIn (l :: b'.layers) name = lookIn (l :: b.layers) name
  rw [lookIn, lookIn, hname]

/-- An evaluator that sees bindings by the values of names. A statement is executed on the innermost
layer. -/
structure Evaluator.ByName (e : Evaluator) : Prop where
  evaluate : ∀ {b b' : Bindings}, b.Agree b' → e.evaluate b' = e.evaluate b
  execute : ∀ {b b' : Bindings}, b.Agree b' → b'.inner = b.inner → e.execute b' = e.execute b

/-! ## Terms -/

section Terms

variable {b b' : Bindings} {shown : String}

theorem nameValue_agree (h : b.Agree b') (locals : List Layer) (name : String) :
    nameValue ⟨b', shown⟩ locals name = nameValue ⟨b, shown⟩ locals name := by
  rw [nameValue, nameValue, h name]

mutual

theorem evalTerm_agree (h : b.Agree b') (locals : List Layer) :
    ∀ t : Term, evalTerm ⟨b', shown⟩ locals t = evalTerm ⟨b, shown⟩ locals t
  | .const v => by simp only [evalTerm]
  | .name id => by simp only [evalTerm, nameValue_agree h]
  | .unary op t => by simp only [evalTerm, evalTerm_agree h locals t]
  | .binary op x y => by simp only [evalTerm, evalTerm_agree h locals x, evalTerm_agree h locals y]
  | .boolean isAnd ts => by simp only [evalTerm, evalJunction_agree h locals isAnd ts]
  | .compare first rest => by
    simp only [evalTerm, evalTerm_agree h locals first, evalComparisons_agree h locals rest]
  | .conditional test yes no => by
    simp only [evalTerm, evalTerm_agree h locals test, evalTerm_agree h locals yes,
      evalTerm_agree h locals no]
  | .call f args named => by
    have hargs := evalTerms_agree h locals args
    have hnamed := evalNamed_agree h locals named
    cases f with
    | name id => simp only [evalTerm, hargs, hnamed]
    | «attribute» t name =>
      simp only [evalTerm, attributeValue, evalTerm_agree h locals t, hargs, hnamed]
    | _ => simp only [evalTerm]
  | .subscript t k => by simp only [evalTerm, evalTerm_agree h locals t, evalTerm_agree h locals k]
  | .slice lower upper step => by
    simp only [evalTerm, evalOption_agree h locals lower, evalOption_agree h locals upper,
      evalOption_agree h locals step]
  | .attribute t name => by simp only [evalTerm, attributeValue, evalTerm_agree h locals t]
  | .joined parts => by simp only [evalTerm, evalParts_agree h locals 0 parts]
  | .formatted t none => by simp only [evalTerm, evalTerm_agree h locals t]
  | .formatted t (some format) => by
    simp only [evalTerm, evalTerm_agree h locals format, evalTerm_agree h locals t]
  | .dict items => by simp only [evalTerm, fun r => evalEntries_agree h locals r items]
  | .list ts => by simp only [evalTerm, evalElements_agree h locals #[] ts]
  | .tuple ts => by simp only [evalTerm, evalTerms_agree h locals ts]
  | .set ts => by simp only [evalTerm, evalMembers_agree h locals {} ts]
  | .starred t => by simp only [evalTerm]
  | .comprehension _ element clauses => by
    simp only [evalTerm, fun l => evalTerm_agree h (l :: locals) element,
      evalClauses_agree h locals [] clauses]
  | .dictComprehension key value clauses => by
    simp only [evalTerm, fun l => evalTerm_agree h (l :: locals) key,
      fun l => evalTerm_agree h (l :: locals) value, evalClauses_agree h locals [] clauses]
  | .absent kind => by simp only [evalTerm]

theorem evalTerms_agree (h : b.Agree b') (locals : List Layer) :
    ∀ ts : List Term, evalTerms ⟨b', shown⟩ locals ts = evalTerms ⟨b, shown⟩ locals ts
  | [] => by simp only [evalTerms]
  | t :: ts => by simp only [evalTerms, evalTerm_agree h locals t, evalTerms_agree h locals ts]

theorem evalOption_agree (h : b.Agree b') (locals : List Layer) :
    ∀ t : Option Term, evalOption ⟨b', shown⟩ locals t = evalOption ⟨b, shown⟩ locals t
  | none => by simp only [evalOption]
  | some t => by simp only [evalOption, evalTerm_agree h locals t]

theorem evalJunction_agree (h : b.Agree b') (locals : List Layer) (isAnd : Bool) :
    ∀ ts : List Term,
      evalJunction ⟨b', shown⟩ locals isAnd ts = evalJunction ⟨b, shown⟩ locals isAnd ts
  | [] => by simp only [evalJunction]
  | [t] => by simp only [evalJunction, evalTerm_agree h locals t]
  | t :: u :: ts => by
    simp only [evalJunction, evalTerm_agree h locals t, evalJunction_agree h locals isAnd (u :: ts)]

theorem evalComparisons_agree (h : b.Agree b') (locals : List Layer) :
    ∀ (rest : List Comparand) (left : Value),
      evalComparisons ⟨b', shown⟩ locals left rest = evalComparisons ⟨b, shown⟩ locals left rest
  | [], left => by simp only [evalComparisons]
  | [.mk op t], left => by simp only [evalComparisons, evalTerm_agree h locals t]
  | .mk op t :: d :: rest, left => by
    simp only [evalComparisons, evalTerm_agree h locals t,
      evalComparisons_agree h locals (d :: rest)]

theorem evalNamed_agree (h : b.Agree b') (locals : List Layer) :
    ∀ named : List Named, evalNamed ⟨b', shown⟩ locals named = evalNamed ⟨b, shown⟩ locals named
  | [] => by simp only [evalNamed]
  | .mk n t :: rest => by
    simp only [evalNamed, evalTerm_agree h locals t, evalNamed_agree h locals rest]

theorem evalParts_agree (h : b.Agree b') (locals : List Layer) (size : Nat) :
    ∀ ts : List Term, evalParts ⟨b', shown⟩ locals size ts = evalParts ⟨b, shown⟩ locals size ts
  | [] => by simp only [evalParts]
  | t :: ts => by
    simp only [evalParts, evalTerm_agree h locals t, fun size => evalParts_agree h locals size ts]

theorem evalElements_agree (h : b.Agree b') (locals : List Layer) (so : Array Value) :
    ∀ ts : List Term, evalElements ⟨b', shown⟩ locals so ts = evalElements ⟨b, shown⟩ locals so ts
  | [] => by simp only [evalElements]
  | t :: ts => by
    have hrest := fun so => evalElements_agree h locals so ts
    cases t with
    | starred t => simp only [evalElements, evalTerm_agree h locals t, hrest]
    | _ => simp only [evalElements, evalTerm_agree h locals _, hrest]

theorem evalMembers_agree (h : b.Agree b') (locals : List Layer) (so : SetTable) :
    ∀ ts : List Term, evalMembers ⟨b', shown⟩ locals so ts = evalMembers ⟨b, shown⟩ locals so ts
  | [] => by simp only [evalMembers]
  | t :: ts => by
    simp only [evalMembers, evalTerm_agree h locals t, fun so => evalMembers_agree h locals so ts]

theorem evalEntries_agree (h : b.Agree b') (locals : List Layer) (r : Ref) :
    ∀ items : List Item,
      evalEntries ⟨b', shown⟩ locals r items = evalEntries ⟨b, shown⟩ locals r items
  | [] => by simp only [evalEntries]
  | .entry k t :: rest => by
    simp only [evalEntries, evalTerm_agree h locals t, evalTerm_agree h locals k,
      evalEntries_agree h locals r rest]
  | .spread t :: rest => by
    simp only [evalEntries, evalTerm_agree h locals t, evalEntries_agree h locals r rest]

theorem evalConditions_agree (h : b.Agree b') (locals : List Layer) :
    ∀ ts : List Term, evalConditions ⟨b', shown⟩ locals ts = evalConditions ⟨b, shown⟩ locals ts
  | [] => by simp only [evalConditions]
  | t :: ts => by
    simp only [evalConditions, evalTerm_agree h locals t, evalConditions_agree h locals ts]

theorem evalClauses_agree (h : b.Agree b') (locals : List Layer) (l : Layer) :
    ∀ (clauses : List Clause) (emit : Layer → Act Unit),
      evalClauses ⟨b', shown⟩ locals l clauses emit = evalClauses ⟨b, shown⟩ locals l clauses emit
  | [], emit => by simp only [evalClauses]
  | .mk target source conditions :: rest, emit => by
    simp only [evalClauses, evalTerm_agree h (l :: locals) source,
      fun l => evalConditions_agree h (l :: locals) conditions,
      fun l => evalClauses_agree h locals l rest]

end

theorem evalStatement_agree (h : b.Agree b') :
    ∀ t : Statement, evalStatement ⟨b', shown⟩ t = evalStatement ⟨b, shown⟩ t
  | .expression t => evalTerm_agree h [] t
  | .assign _ t => evalTerm_agree h [] t
  | .augment _ _ t => evalTerm_agree h [] t
  | .absent kind => by cases kind <;> rfl

end Terms

/-! ## Evaluators -/

section Evaluators

variable {b b' : Bindings}

theorem evaluateText_agree (h : b.Agree b') : evaluateText b' = evaluateText b := by
  funext text
  simp only [evaluateText, evaluateWithin, computeText, evalStatement_agree h]

theorem evaluateTerm_agree (h : b.Agree b') : evaluateTerm b' = evaluateTerm b := by
  funext text t
  simp only [evaluateTerm, computeTerm, evalTerm_agree h]

theorem executeStatement_agree (h : b.Agree b') (hinner : b'.inner = b.inner) (text : String) :
    ∀ t : Statement, executeStatement b' text t = executeStatement b text t
  | .assign targets t => by simp only [executeStatement, evaluateTerm_agree h, hinner]
  | .augment target op t => by
    have hnames : ∀ name, b'.get? name = b.get? name := h
    simp only [executeStatement, evaluateTerm_agree h, hinner, hnames]
  | .expression t => by simp only [executeStatement, evaluateTerm_agree h, hinner]
  | .absent kind => rfl

/-- The standard evaluator sees bindings by the values of names. -/
theorem Evaluator.standard_byName : Evaluator.standard.ByName where
  evaluate h := evaluateText_agree h
  execute {b b'} h hinner := by
    funext text
    show executeText b' text = executeText b text
    simp only [executeText, executeWithin, executeStatement_agree h hinner]

end Evaluators

end Expr

open Stencil.Expr

/-! ## Rules -/

section Rules

variable {e : Evaluator} {b b' : Bindings}

theorem resolve_agree (he : e.ByName) (h : b.Agree b') (text : String) :
    e.resolve b' text = e.resolve b text := by
  simp only [Evaluator.resolve, he.evaluate h]

/-- A replacement is computed with the captures of its match in a layer of their own. -/
theorem Rule.apply_agree (he : e.ByName) (h : b.Agree b') (r : Rule) :
    r.apply e b' = r.apply e b := by
  have hreplacement : r.replacementFor e b' = r.replacementFor e b := by
    funext hit
    exact resolve_agree he (h.push _) _
  funext o
  simp only [Rule.apply, resolve_agree he h, hreplacement]

namespace Substitution

mutual

theorem apply_agree (he : e.ByName) (h : b.Agree b') :
    ∀ (m : Substitution) (o : Outcome), m.apply e b' o = m.apply e b o
  | .rule r, o => by simp only [apply, Rule.apply_agree he h]
  | .first [], o => by simp only [apply]
  | .first (m :: ms), o => by simp only [apply, applyFirst_agree he h (m :: ms)]
  | .all ms, o => by simp only [apply, applyAll_agree he h ms]

theorem applyFirst_agree (he : e.ByName) (h : b.Agree b') :
    ∀ (ms : List Substitution) (o : Outcome), applyFirst e b' ms o = applyFirst e b ms o
  | [], o => by simp only [applyFirst]
  | m :: ms, o => by simp only [applyFirst, apply_agree he h m, applyFirst_agree he h ms]

theorem applyAll_agree (he : e.ByName) (h : b.Agree b') :
    ∀ (ms : List Substitution) (o : Outcome), applyAll e b' ms o = applyAll e b ms o
  | [], o => by simp only [applyAll]
  | m :: ms, o => by simp only [applyAll, apply_agree he h m, applyAll_agree he h ms]

end

end Substitution

end Rules

end Stencil
