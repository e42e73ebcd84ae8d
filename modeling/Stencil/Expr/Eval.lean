import Stencil.Expr.Bindings
import Stencil.Expr.Call
import Stencil.Expr.Collection
import Stencil.Expr.Term
/-!
# Stencil.Expr.Eval -- the values of terms

Terms are evaluated from left to right. A name means, in this order, a variable of a comprehension
around it, a binding, a known function. What is called by its name alone is a known function.
Comprehensions take a limited number of steps in one evaluation, so evaluation always ends.
-/

namespace Stencil.Expr

/-- What an evaluation is given: the bindings, and the text that is told in faults. -/
structure Context where
  bindings : Bindings
  shown : String

/-- How many steps the comprehensions of one evaluation take at most. -/
def stepLimit : Nat := 10000

/-- The refusal of a kind of term or statement. -/
def notAvailable {α : Type} (kind : String) : Act α :=
  refuse ("Sorry, " ++ kind ++ " is not available in this evaluator")

/-! ## Names and attributes -/

/-- The value of a name, given the variables of the comprehensions around it, innermost first. -/
def nameValue (c : Context) (locals : List Layer) (name : String) : Act Value :=
  match Bindings.lookIn locals name with
  | some v => return v
  | none =>
    match c.bindings.get? name with
    | some v => return v
    | none =>
      match knownFunction? name with
      | some v => return v
      | none => refuse ("'" ++ name ++ "' is not defined for expression '" ++ c.shown ++ "'")

/-- Attributes that are never looked at, by how their names start. -/
def hiddenStarts : List String := ["_", "func_"]

/-- Attributes that are never looked at. -/
def hiddenNames : List String :=
  ["format", "format_map", "mro", "tb_frame", "gi_frame", "ag_frame", "cr_frame", "exec"]

/-- Refuse an attribute that is never looked at. -/
def checkAttribute (name : String) : Act Unit := do
  if hiddenStarts.any fun s => Text.startsWith s.toList name.toList then
    refuse ("Sorry, access to __attributes  or func_ attributes is not available. (" ++ name ++ ")")
  if hiddenNames.contains name then
    refuse ("Sorry, this method is not available. (" ++ name ++ ")")

/-- The attribute of a value, or else the item that a container has under its name. -/
def attributeValue (c : Context) (v : Value) (name : String) : Act Value := do
  match attribute? v name with
  | some w => return w
  | none =>
    let item : Option Value ← tryCatch (some <$> getItem v (.str name)) fun
      | .fault .missingKey _ | .fault .typeMismatch _ => pure none
      | e => throw e
    match item with
    | some w => return w
    | none => refuse ("Attribute '" ++ name ++ "' does not exist in expression '" ++ c.shown ++ "'")

/-! ## Operators and calls -/

/-- The outcome of a comparison. -/
def applyComparison (op : CompareOp) (a b : Value) : Act Value := do
  match op with
  | .eq => return .bool (← equal a b)
  | .ne => return .bool (!(← equal a b))
  | .lt => return .bool (← compareValues .lt a b)
  | .le => return .bool (← compareValues .le a b)
  | .gt => return .bool (← compareValues .gt a b)
  | .ge => return .bool (← compareValues .ge a b)
  | .is => return .bool (same a b)
  | .isNot => return .bool (!same a b)
  | .isIn => return .bool (← holds b a)
  | .notIn => return .bool (!(← holds b a))

/-- Whether a value can be called at all. -/
def Value.isCallable : Value → Bool
  | .type _ | .function _ | .bound .. | .unbound .. => true
  | _ => false

/-- Call a value. Of arguments with the same name the last one counts, and spread arguments have no
names to be given by. -/
def callNamed (f : Value) (positional : List Value) (named : List (Option String × Value)) :
    Act Value := do
  if f.isCallable && named.any (·.1.isNone) then typeError "keywords must be strings"
  let named := Layer.ofPairs (named.filterMap fun (n, v) => n.map (·, v))
  call f ⟨positional, named⟩

/-- The value of a literal, unless it is too long. -/
def literalValue (v : Value) : Act Value := do
  let size := match v with
    | .str s => s.length
    | .bytes b => b.length
    | _ => 0
  if size > sizeLimit then
    refuse ("Literal in statement is too long! (" ++ toString size ++ ", when " ++
      toString sizeLimit ++ " is max)")
  return v

/-! ## Targets of comprehensions -/

/-- The name of a kind of target that has no elements. -/
def Term.targetKind : Term → String
  | .starred _ => "Starred"
  | .attribute .. => "Attribute"
  | .subscript .. => "Subscript"
  | _ => "Name"

mutual

/-- Bind the names of a target to a value or to the elements of it. Elements and values are taken in
step until one of them ends, so names may be left as they are. -/
def bindTarget (l : Layer) (v : Value) : Term → Act Layer
  | .name id => return l.put id v
  | .tuple ts => do bindTargets l (← iterRef v) ts
  | .list ts => do bindTargets l (← iterRef v) ts
  | t => fault .missingAttribute ("'" ++ t.targetKind ++ "' object has no attribute 'elts'")

/-- Bind several targets to the next values of an iterator. -/
def bindTargets (l : Layer) (it : Ref) : List Term → Act Layer
  | [] => return l
  | t :: ts => do
    match ← next it with
    | some v => bindTargets (← bindTarget l v t) it ts
    | none => return l

end

/-- Count a step of a comprehension. -/
def countStep : Act Unit := do
  let m ← get
  set { m with steps := m.steps + 1 }
  if m.steps + 1 > stepLimit then refuse "Comprehension generates too many elements"

/-- Do something for the values of an iterator, passing on the variables of a comprehension. Each
value is a step. -/
def forEach (it : Ref) (body : Layer → Value → Act Layer) : Nat → Layer → Act Layer
  | 0, l => return l
  | n + 1, l => do
    match ← next it with
    | none => return l
    | some v =>
      countStep
      forEach it body n (← body l v)

/-! ## Terms -/

mutual

/-- The value of a term; `locals` are the variables of the comprehensions around it. -/
def evalTerm (c : Context) (locals : List Layer) : Term → Act Value
  | .const v => literalValue v
  | .name id => nameValue c locals id
  | .unary op t => do applyUnary op (← evalTerm c locals t)
  | .binary op a b => do
    -- An operator that expressions do not have is refused before its operands are looked at.
    if op == .matMul then
      refuse ("Operator '@' does not exist in expression '" ++ c.shown ++ "'")
    else
      let x ← evalTerm c locals a
      let y ← evalTerm c locals b
      applyBinary op x y
  | .boolean isAnd ts => evalJunction c locals isAnd ts
  | .compare first rest => do evalComparisons c locals (← evalTerm c locals first) rest
  | .conditional test yes no => do
    let v ← evalTerm c locals test
    if ← truthy v then evalTerm c locals yes else evalTerm c locals no
  | .call (.attribute t name) args named => do
    checkAttribute name
    let f ← attributeValue c (← evalTerm c locals t) name
    let vs ← evalTerms c locals args
    callNamed f vs (← evalNamed c locals named)
  -- A plain name is only looked up among the functions, whatever is bound to it.
  | .call (.name id) args named => do
    match knownFunction? id with
    | some f =>
      let vs ← evalTerms c locals args
      callNamed f vs (← evalNamed c locals named)
    | none => refuse ("Function '" ++ id ++ "' not defined, for expression '" ++ c.shown ++ "'.")
  | .call .. => refuse "Lambda Functions not implemented"
  | .subscript t k => do
    let v ← evalTerm c locals t
    getItem v (← evalTerm c locals k)
  | .slice lower upper step => do
    let a ← evalOption c locals lower
    let b ← evalOption c locals upper
    return .slice a b (← evalOption c locals step)
  | .attribute t name => do
    checkAttribute name
    attributeValue c (← evalTerm c locals t) name
  | .joined parts => do return .str (joinTexts "" (← evalParts c locals 0 parts))
  | .formatted t none => evalTerm c locals t
  -- The format is computed before the value that it is for.
  | .formatted t (some format) => do
    let spec ← plainText (← evalTerm c locals format)
    return .str (← formatValue spec.toList (← evalTerm c locals t))
  | .dict items => do
    let r ← alloc (.dict {})
    evalEntries c locals r items
    return .dict r
  | .list ts => do newList (← evalElements c locals #[] ts)
  | .tuple ts => do return .tuple (← evalTerms c locals ts)
  | .set ts => do newSet (← evalMembers c locals {} ts)
  | .starred _ => notAvailable "Starred"
  | .comprehension _ element clauses => do
    let r ← alloc (.list #[])
    discard (evalClauses c locals [] clauses fun l => do
      let v ← evalTerm c (l :: locals) element
      modifyList r (·.push v))
    return .list r
  | .dictComprehension key value clauses => do
    let r ← alloc (.dict {})
    discard (evalClauses c locals [] clauses fun l => do
      let k ← evalTerm c (l :: locals) key
      dictPut r k (← evalTerm c (l :: locals) value))
    return .dict r
  | .absent kind => notAvailable kind.name

/-- The values of several terms. -/
def evalTerms (c : Context) (locals : List Layer) : List Term → Act (List Value)
  | [] => return []
  | t :: ts => do
    let v ← evalTerm c locals t
    return v :: (← evalTerms c locals ts)

/-- The value of a term that may be absent. -/
def evalOption (c : Context) (locals : List Layer) : Option Term → Act Value
  | none => return .none
  | some t => evalTerm c locals t

/-- The operand that decides a chain of `and` or of `or`. -/
def evalJunction (c : Context) (locals : List Layer) (isAnd : Bool) : List Term → Act Value
  | [] => return .bool false
  | [t] => evalTerm c locals t
  | t :: ts => do
    let v ← evalTerm c locals t
    if (← truthy v) == isAnd then evalJunction c locals isAnd ts else return v

/-- The outcome of a chain of comparisons, which stops at the first that does not hold. -/
def evalComparisons (c : Context) (locals : List Layer) (left : Value) :
    List Comparand → Act Value
  | [] => return .bool true
  | [.mk op t] => do applyComparison op left (← evalTerm c locals t)
  | .mk op t :: rest => do
    let right ← evalTerm c locals t
    let v ← applyComparison op left right
    if ← truthy v then evalComparisons c locals right rest else return v

/-- The named arguments of a call. -/
def evalNamed (c : Context) (locals : List Layer) :
    List Named → Act (List (Option String × Value))
  | [] => return []
  | .mk n t :: rest => do
    let v ← evalTerm c locals t
    return (n, v) :: (← evalNamed c locals rest)

/-- The texts of the parts of a formatted text, `size` characters having been written before. -/
def evalParts (c : Context) (locals : List Layer) (size : Nat) : List Term → Act (List String)
  | [] => return []
  | t :: ts => do
    let s ← plainText (← evalTerm c locals t)
    if s.length + size > sizeLimit then
      refuse "Sorry, I will not evaluate something this long."
    return s :: (← evalParts c locals (size + s.length) ts)

/-- The elements of a list, some of which may be spread from other collections. -/
def evalElements (c : Context) (locals : List Layer) (so : Array Value) :
    List Term → Act (Array Value)
  | [] => return so
  | .starred t :: ts => do
    -- Spread elements are taken at once, before the elements behind them.
    let vs ← collect (← evalTerm c locals t)
    evalElements c locals (so ++ vs) ts
  | t :: ts => do
    let v ← evalTerm c locals t
    evalElements c locals (so.push v) ts

/-- The members of a set. -/
def evalMembers (c : Context) (locals : List Layer) (so : SetTable) :
    List Term → Act SetTable
  | [] => return so
  | t :: ts => do
    let m ← memberFor (← evalTerm c locals t)
    evalMembers c locals (so.add m) ts

/-- Put entries into a dictionary. The value of an entry is found before its key. -/
def evalEntries (c : Context) (locals : List Layer) (r : Ref) : List Item → Act Unit
  | [] => return ()
  | .entry k t :: rest => do
    let v ← evalTerm c locals t
    dictPut r (← evalTerm c locals k) v
    evalEntries c locals r rest
  | .spread t :: rest => do
    let v ← evalTerm c locals t
    discard (callMethod (fun _ w => pure w) (.dict r) "update" ⟨[v], []⟩)
    evalEntries c locals r rest

/-- Whether all conditions hold, up to the first that does not. -/
def evalConditions (c : Context) (locals : List Layer) : List Term → Act Bool
  | [] => return true
  | t :: ts => do
    let v ← evalTerm c locals t
    if ← truthy v then evalConditions c locals ts else return false

/-- Run the clauses of a comprehension, whose variables are in the innermost layer, and yield at the
end of each run. -/
def evalClauses (c : Context) (locals : List Layer) (l : Layer) :
    List Clause → (Layer → Act Unit) → Act Layer
  | [], emit => do
    emit l
    return l
  | .mk target source conditions :: rest, emit => do
    let v ← evalTerm c (l :: locals) source
    let it ← iterRef v
    forEach it (fun l v => do
      -- All clauses share one layer, so an inner variable may hide an outer one for good.
      let l ← bindTarget l v target
      if ← evalConditions c (l :: locals) conditions then evalClauses c locals l rest emit
      else return l) (stepLimit + 1) l

end

/-- The value of a statement. Assignments only give the assigned value. -/
def evalStatement (c : Context) : Statement → Act Value
  | .expression t => evalTerm c [] t
  | .assign _ t => evalTerm c [] t
  | .augment _ _ t => evalTerm c [] t
  | .absent .import_ => refuse "Sorry, 'import' is not allowed."
  | .absent kind => notAvailable kind.name

end Stencil.Expr
