import Stencil.Expr.Grammar.Basic
/-!
# Stencil.Expr.Grammar.Expression -- the rules of expressions

From the loosest binding to the tightest: named and conditional expressions, `or`, `and`, `not`,
comparisons, the binary operators, powers, calls and subscripts, atoms. Each group of rules stands
with the objections that belong to it.
-/

namespace Stencil.Expr.Grammar

variable (call : Call)

/-! ## Lists of expressions -/

/-- Phrases with commas between them: one alone stands for itself, several and one with a comma
after it for a tuple. -/
def tupleOf (item : Read Phrase) : Read Phrase := do
  let first ← item
  let more ← many (do discard (mark ","); item)
  let comma ← attempt (mark ",")
  if more.isEmpty && comma.isNone then return first
  else return .mk first.line (.tuple ((first :: more).map (·.term))) (first :: more)

/-- A starred phrase. -/
def starred (item : Read Phrase) : Read Phrase := do
  let t ← mark "*"
  let p ← item
  return .mk t.line (.starred p.term) [p]

/-- Items with commas between them and maybe one at the end. -/
def commaList {α : Type} (item : Read α) : Read (List α) := do
  let ps ← separated item (mark ",")
  discard (attempt (mark ","))
  return ps

/-- `yield` with what it yields. -/
def yielded : Read Phrase := do
  let t ← word "yield"
  firstOf
    [do discard (word "from")
        discard (call.phrase .expression)
        return .leaf t.line (.absent .yieldFrom),
     do discard (attempt (call.phrase .starExpressions))
        return .leaf t.line (.absent .yield)]

/-! ## Named expressions -/

/-- Whether a term is the name of a command of old that is a function now. -/
def isOldCommand : Term → Bool
  | .name id => id == "print" || id == "exec"
  | _ => false

/-- A name given to an expression. -/
def assignment : Read Phrase := do
  let t ← nameToken
  discard (mark ":=")
  discard (call.phrase .expression)
  return .leaf t.line (.absent .named)

/-- Objections to what looks like a name given to an expression. -/
def misnamed : Read Node :=
  firstOf
    [do let a ← call.phrase .expression
        discard (mark ":=")
        discard (call.phrase .expression)
        objectAt a.line (.badNamed a.describe),
     do let a ← nameToken
        discard (mark "=")
        discard (call.phrase .bitOr)
        notAhead (firstOf [mark "=", mark ":="])
        objectAt a.line .equalsInExpression,
     do notAhead (firstOf [discard (call.phrase .list), discard (call.phrase .tuple),
          discard (call.phrase .generator), discard (word "True"), discard (word "None"),
          discard (word "False")])
        let a ← call.phrase .bitOr
        discard (mark "=")
        discard (call.phrase .bitOr)
        notAhead (firstOf [mark "=", mark ":="])
        objectAt a.line (.cannotAssignHere a.describe)]

/-- An expression, or a name given to one. -/
def namedExpression : Read Phrase :=
  firstOf
    [assignment call,
     objection (call.phrase .misnamed),
     do let p ← call.phrase .expression
        notAhead (mark ":=")
        return p]

/-! ## Conditional expressions -/

/-- The words that are names except in some places. -/
def softWords : List String := ["_", "case", "match"]

/-- Objections to expressions that follow each other without an operator, and to conditional
expressions that lack their last part. -/
def misplaced : Read Phrase :=
  firstOf
    [do notAhead (firstOf [do discard nameToken; discard (kind .text),
          discard (tokenWhere fun t => t.kind == .name && softWords.contains t.spelling)])
        let a ← call.phrase .disjunction
        discard (unobjecting (call.phrase .plainExpression))
        let last ← lastRead
        if isOldCommand a.term || last.depth == 0 then mismatch
        else objectAt a.line .commaForgotten,
     do let a ← call.phrase .disjunction
        discard (word "if")
        discard (call.phrase .disjunction)
        notAhead (firstOf [word "else", mark ":"])
        objectAt a.line .elseExpected]

/-- Objections to commands of old. -/
def oldCommand : Read Phrase := do
  let a ← namePhrase
  notAhead (mark "(")
  discard (call.phrase .starExpressions)
  match a.term with
  | .name id =>
    if isOldCommand a.term then objectAt a.line (.parenthesesMissing id) else mismatch
  | _ => mismatch

/-- A conditional expression. -/
def conditional : Read Phrase := do
  let yes ← call.phrase .disjunction
  discard (word "if")
  let test ← call.phrase .disjunction
  discard (word "else")
  let no ← call.phrase .expression
  return .leaf yes.line (.conditional test.term yes.term no.term)

/-- An expression. -/
def expression : Read Phrase :=
  firstOf
    [objection (misplaced call), objection (oldCommand call), conditional call,
     call.phrase .disjunction, call.phrase .lambda]

/-! ## Operators -/

/-- Operands of `and` or of `or`. -/
def junction (isAnd : Bool) (operand : Rule) (sign : String) : Read Phrase := do
  let first ← call.phrase operand
  let more ← many (do discard (word sign); call.phrase operand)
  if more.isEmpty then return first
  else return .leaf first.line (.boolean isAnd ((first :: more).map (·.term)))

/-- A negation, or a comparison. -/
def inversion : Read Phrase :=
  firstOf
    [do let t ← word "not"
        let p ← call.phrase .inversion
        return .leaf t.line (.unary .not p.term),
     call.phrase .comparison]

/-- A comparison operator. -/
def comparisonSign : Read CompareOp :=
  firstOf
    [do discard (mark "=="); return .eq,
     do discard (mark "!="); return .ne,
     do discard (mark "<="); return .le,
     do discard (mark "<"); return .lt,
     do discard (mark ">="); return .ge,
     do discard (mark ">"); return .gt,
     do discard (word "not"); discard (word "in"); return .notIn,
     do discard (word "in"); return .isIn,
     do discard (word "is"); discard (word "not"); return .isNot,
     do discard (word "is"); return .is]

/-- Operands with comparison operators between them. -/
def comparison : Read Phrase := do
  let first ← call.phrase .bitOr
  let more ← many (do
    let op ← comparisonSign
    return Comparand.mk op (← call.phrase .bitOr).term)
  if more.isEmpty then return first
  else return .mk first.line (.compare first.term more) [first]

/-- Operands with binary operators between them, which group to the left. -/
def leftGrouped (operand : Rule) (signs : List (String × BinaryOp)) : Read Phrase := do
  let first ← call.phrase operand
  let more ← many (do
    let op ← firstOf (signs.map fun (s, op) => do discard (mark s); return op)
    return (op, (← call.phrase operand).term))
  if more.isEmpty then return first
  else return .leaf first.line (more.foldl (fun t (op, u) => .binary op t u) first.term)

/-- A signed operand, or a power. -/
def factor : Read Phrase :=
  firstOf
    [signed "+" .plus, signed "-" .negate, signed "~" .invert, call.phrase .power]
where
  /-- An operand after a sign. -/
  signed (sign : String) (op : UnaryOp) : Read Phrase := do
    let t ← mark sign
    let p ← call.phrase .factor
    return .leaf t.line (.unary op p.term)

/-- A power, whose exponent may be signed. -/
def power : Read Phrase := do
  let base ← call.phrase .awaited
  match ← attempt (do discard (mark "**"); call.phrase .factor) with
  | some e => return .leaf base.line (.binary .pow base.term e.term)
  | none => return base

/-- `await` with a primary, or a primary. -/
def awaited : Read Phrase :=
  firstOf
    [do let t ← word "await"
        discard (call.phrase .primary)
        return .leaf t.line (.absent .await),
     call.phrase .primary]

/-! ## Calls, attributes and subscripts -/

/-- The term of a call. -/
def callTerm (callee : Term) (a : CallArgs) : Term :=
  .call callee (a.positional.map (·.term)) a.named

/-- What may follow a primary: an attribute, arguments or a subscript. -/
def trailer : Read (Term → Term) :=
  firstOf
    [do discard (mark ".")
        let n ← nameToken
        return fun t => .attribute t (nameOf n),
     do let g ← call.phrase .generator
        return fun t => .call t [g.term] [],
     do discard (mark "(")
        let a ← attempt (call.callArgs .arguments)
        discard (mark ")")
        return fun t => callTerm t (a.getD default),
     do discard (mark "[")
        let k ← call.phrase .slices
        discard (mark "]")
        return fun t => .subscript t k.term]

/-- An atom with trailers. -/
def primary : Read Phrase := do
  let first ← call.phrase .atom
  let more ← many (trailer call)
  if more.isEmpty then return first
  else return .leaf first.line (more.foldl (fun t f => f t) first.term)

/-- One subscript, or several. -/
def slices : Read Phrase :=
  firstOf
    [do let p ← call.phrase .slice
        notAhead (mark ",")
        return p,
     do let here ← peek
        let ps ← commaList (firstOf
          [call.phrase .slice, starred (call.phrase .expression)])
        return .mk here.line (.tuple (ps.map (·.term))) ps]

/-- A range of subscripts, or one. -/
def slice : Read Phrase :=
  firstOf
    [located do
      let lower ← attempt (call.phrase .expression)
      discard (mark ":")
      let upper ← attempt (call.phrase .expression)
      let step ← attempt (do discard (mark ":"); attempt (call.phrase .expression))
      return .slice (lower.map (·.term)) (upper.map (·.term)) (step.join.map (·.term)),
     call.phrase .namedExpression]

/-! ## Atoms -/

/-- Texts that follow each other. -/
def texts : Read Phrase := do
  let here ← peek
  let ts ← many1 (kind .text)
  match textTerm (← read).readField (ts.map fun t => (t.spelling.toList, t.line)) with
  | .ok t => return .leaf here.line t
  | .error (.cause c none) => object c
  | .error (.cause c (some line)) => objectAt line c
  | .error (.within f) => fun _ s => .error (.objection f) s

/-- A number. -/
def number : Read Phrase := do
  let t ← kind .number
  match numberValue t.spelling.toList with
  | .ok v => return .leaf t.line (.const v)
  | .error c => objectAt t.line c

/-- A word that stands for a value. -/
def constant (spelling : String) (v : Value) : Read Phrase := do
  return .leaf (← word spelling).line (.const v)

/-- An atom. -/
def atom : Read Phrase :=
  firstOf
    [namePhrase, constant "True" (.bool true), constant "False" (.bool false),
     constant "None" .none,
     do ahead (kind .text); call.phrase .texts,
     number,
     do ahead (mark "("); firstOf [call.phrase .tuple, call.phrase .group, call.phrase .generator],
     do ahead (mark "["); firstOf [call.phrase .list, call.phrase .listComprehension],
     do ahead (mark "\x7b")
        firstOf [call.phrase .dict, call.phrase .set, call.phrase .dictComprehension,
          call.phrase .setComprehension],
     do return .leaf (← mark "...").line (.const .ellipsis)]

/-- An expression in parentheses. -/
def group : Read Phrase :=
  firstOf
    [do discard (mark "(")
        let p ← firstOf [call.phrase .yielded, call.phrase .namedExpression]
        discard (mark ")")
        return p,
     objection do
      discard (mark "(")
      firstOf
        [do let a ← starred (call.phrase .expression)
            discard (mark ")")
            objectAt a.line .starredHere,
         do let t ← mark "**"
            discard (call.phrase .expression)
            discard (mark ")")
            objectAt t.line .doubleStarredHere]]

/-- A tuple in parentheses. -/
def tuple : Read Phrase := do
  let t ← mark "("
  let ps ← attempt (do
    let first ← call.phrase .starNamedExpression
    discard (mark ",")
    let more ← attempt (call.phrases .starNamedExpressions)
    return first :: more.getD [])
  discard (mark ")")
  let ps := ps.getD []
  return .mk t.line (.tuple (ps.map (·.term))) ps

/-- A list. -/
def list : Read Phrase := do
  let t ← mark "["
  let ps ← attempt (call.phrases .starNamedExpressions)
  discard (mark "]")
  let ps := ps.getD []
  return .mk t.line (.list (ps.map (·.term))) ps

/-- A set. -/
def set : Read Phrase := do
  let t ← mark "\x7b"
  let ps ← call.phrases .starNamedExpressions
  discard (mark "\x7d")
  return .leaf t.line (.set (ps.map (·.term)))

/-- A key with its value, or a spread. -/
def entry : Read Item :=
  firstOf
    [do discard (mark "**")
        return .spread (← call.phrase .bitOr).term,
     do let k ← call.phrase .expression
        discard (mark ":")
        return .entry k.term (← call.phrase .expression).term]

/-- Objections to an entry. -/
def badEntry : Read Unit :=
  firstOf
    [do discard (call.phrase .expression)
        discard (mark ":")
        let t ← mark "*"
        discard (call.phrase .bitOr)
        objectAt t.line .starredDictValue,
     do discard (call.phrase .expression)
        let t ← mark ":"
        ahead (firstOf [mark "\x7d", mark ","])
        objectAt t.line .valueAfterColon]

/-- A dictionary. -/
def dict : Read Phrase :=
  firstOf
    [do let t ← mark "\x7b"
        let items ← attempt (do
          let items ← separated call.entry (mark ",")
          discard (attempt (mark ","))
          return items)
        discard (mark "\x7d")
        return .leaf t.line (.dict (items.getD [])),
     do discard (mark "\x7b")
        firstOf
          [do discard (separated call.entry (mark ","))
              discard (mark ",")
              firstOf
                [do let a ← call.phrase .expression
                    notAhead (mark ":")
                    objectAt a.line .colonAfterKey,
                 badEntry call],
           badEntry call]
        discard (mark "\x7d")
        mismatch]

/-! ## Comprehensions -/

/-- One `for` of a comprehension with its conditions. After `in` there is no way back. -/
def clause : Read Clause := do
  let head ← attempt (do
    discard (attempt (word "async"))
    discard (word "for")
    let target ← call.phrase .starTargets
    discard (word "in")
    return target)
  match head with
  | some target =>
    let source ← call.phrase .disjunction
    let conditions ← many (do discard (word "if"); call.phrase .disjunction)
    return .mk target.term source.term (conditions.map (·.term))
  | none =>
    objection do
      discard (attempt (word "async"))
      discard (word "for")
      objectToTarget .looped (← call.phrase .starExpressions)

/-- Objections to a comprehension. -/
def badComprehension : Read Phrase :=
  let opened (signs : List String) := firstOf (signs.map mark)
  firstOf
    [do discard (opened ["[", "(", "\x7b"])
        let a ← starred (call.phrase .expression)
        discard call.clauses
        objectAt a.line .unpackingInComprehension,
     do discard (opened ["[", "\x7b"])
        let a ← call.phrase .starNamedExpression
        discard (mark ",")
        discard (call.phrases .starNamedExpressions)
        discard call.clauses
        objectAt a.line .bareComprehensionTarget,
     do discard (opened ["[", "\x7b"])
        let a ← call.phrase .starNamedExpression
        discard (mark ",")
        discard call.clauses
        objectAt a.line .bareComprehensionTarget]

/-- A comprehension between brackets. -/
def comprehension (opening closing : String) (element : Read Phrase)
    (make : Term → List Clause → Term) : Read Phrase :=
  firstOf
    [do let t ← mark opening
        let e ← element
        let cs ← call.clauses
        discard (mark closing)
        return .leaf t.line (make e.term cs),
     objection (badComprehension call)]

/-- What a generator yields. -/
def generated : Read Phrase :=
  firstOf
    [assignment call,
     do let p ← call.phrase .expression
        notAhead (mark ":=")
        return p]

/-- A dictionary made by a comprehension. -/
def dictComprehension : Read Phrase :=
  firstOf
    [do let t ← mark "\x7b"
        let k ← call.phrase .expression
        discard (mark ":")
        let v ← call.phrase .expression
        let cs ← call.clauses
        discard (mark "\x7d")
        return .leaf t.line (.dictComprehension k.term v.term cs),
     objection do
      discard (mark "\x7b")
      let t ← mark "**"
      discard (call.phrase .bitOr)
      discard call.clauses
      discard (mark "\x7d")
      objectAt t.line .dictUnpackingInComprehension]

/-! ## Arguments -/

/-- An argument that is given among named ones. -/
inductive LateArg where
  | positional (p : Phrase)
  | named (n : Named)

/-- Objections to a named argument. -/
def badNamedArg : Read LateArg :=
  firstOf
    [do let t ← firstOf [word "True", word "False", word "None"]
        discard (mark "=")
        objectAt t.line (.cannotAssign t.spelling),
     do let t ← nameToken
        discard (mark "=")
        discard (call.phrase .expression)
        discard call.clauses
        objectAt t.line .equalsInExpression,
     do notAhead (do discard nameToken; discard (mark "="))
        let a ← call.phrase .expression
        discard (mark "=")
        objectAt a.line .assignmentInCall]

/-- A named argument. -/
def namedArg : Read LateArg := do
  let n ← nameToken
  discard (mark "=")
  return .named (.mk (some (nameOf n)) (← call.phrase .expression).term)

/-- A named argument or a starred one. -/
def namedOrStarred : Read LateArg :=
  firstOf
    [objection (badNamedArg call), namedArg call,
     do return .positional (← starred (call.phrase .expression))]

/-- A named argument or a spread of several. -/
def namedOrSpread : Read LateArg :=
  firstOf
    [objection (badNamedArg call), namedArg call,
     do discard (mark "**")
        return .named (.mk none (← call.phrase .expression).term)]

/-- Named arguments, those spread from dictionaries last. -/
def lateArgs : Read (List LateArg) :=
  firstOf
    [do let a ← separated (namedOrStarred call) (mark ",")
        discard (mark ",")
        return a ++ (← separated (namedOrSpread call) (mark ",")),
     separated (namedOrStarred call) (mark ","),
     separated (namedOrSpread call) (mark ",")]

/-- The arguments of a call, by position first. -/
def args : Read CallArgs := do
  let here ← peek
  let early := do
    let p ← firstOf [starred (call.phrase .expression), generated call]
    notAhead (mark "=")
    return p
  let build (ps : List Phrase) (late : List LateArg) : CallArgs :=
    ⟨here.line,
      ps ++ late.filterMap fun
        | .positional p => some p
        | .named _ => none,
      late.filterMap fun
        | .named n => some n
        | .positional _ => none⟩
  firstOf
    [do let ps ← separated early (mark ",")
        let late ← attempt (do discard (mark ","); lateArgs call)
        return build ps (late.getD []),
     do return build [] (← lateArgs call)]

/-- Objections to the arguments of a call. -/
def badArguments : Read CallArgs :=
  firstOf
    [do let a ← call.callArgs .args
        discard (mark ",")
        discard (mark "*")
        objectAt a.line .starAfterDouble,
     do let a ← call.phrase .expression
        discard call.clauses
        discard (mark ",")
        discard (attempt (firstOf
          [discard (call.callArgs .args),
           do discard (call.phrase .expression); discard call.clauses]))
        objectAt a.line .bareGenerator,
     do let t ← nameToken
        discard (mark "=")
        discard (call.phrase .expression)
        discard call.clauses
        objectAt t.line .equalsInExpression,
     do let a ← call.callArgs .args
        discard call.clauses
        match a.positional with
        | _ :: _ :: _ =>
          objectAt ((a.positional.getLast?.map (·.line)).getD a.line) .bareGenerator
        | _ => mismatch,
     do discard (call.callArgs .args)
        discard (mark ",")
        let a ← call.phrase .expression
        discard call.clauses
        objectAt a.line .bareGenerator,
     do let a ← call.callArgs .args
        discard (mark ",")
        discard (call.callArgs .args)
        let spread := a.named.any fun
          | .mk none _ => true
          | .mk (some _) _ => false
        object (if spread then .positionalAfterUnpacking else .positionalAfterKeyword)]

/-- The arguments of a call up to its closing parenthesis. -/
def arguments : Read CallArgs :=
  firstOf
    [do let a ← call.callArgs .args
        discard (attempt (mark ","))
        ahead (mark ")")
        return a,
     objection (badArguments call)]

/-! ## Targets -/

/-- One target, or several. -/
def starTargets : Read Phrase :=
  firstOf
    [do let p ← call.phrase .starTarget
        notAhead (mark ",")
        return p,
     do let ps ← commaList (call.phrase .starTarget)
        return .mk ((ps.head?.map (·.line)).getD 1) (.tuple (ps.map (·.term))) ps]

/-- A target, or a starred one. -/
def starTarget : Read Phrase :=
  firstOf
    [starred (do notAhead (mark "*"); call.phrase .starTarget),
     call.phrase .targetWithStar]

/-- What shows that a target goes on. -/
def goesOn : Read Unit := discard (firstOf [mark "(", mark "[", mark "."])

/-- An attribute or a subscript that ends a target. -/
def targetEnd : Read Phrase :=
  firstOf
    [do let base ← call.phrase .targetBase
        discard (mark ".")
        let n ← nameToken
        notAhead goesOn
        return .leaf base.line (.attribute base.term (nameOf n)),
     do let base ← call.phrase .targetBase
        discard (mark "[")
        let k ← call.phrase .slices
        discard (mark "]")
        notAhead goesOn
        return .leaf base.line (.subscript base.term k.term)]

/-- What an attribute or subscript that ends a target belongs to. -/
def targetBase : Read Phrase := do
  let first ← call.phrase .atom
  ahead goesOn
  let more ← many (do
    let f ← trailer call
    ahead goesOn
    return f)
  if more.isEmpty then return first
  else return .leaf first.line (more.foldl (fun t f => f t) first.term)

/-- A name, or targets in brackets. -/
def starAtom : Read Phrase :=
  firstOf
    [namePhrase,
     do discard (mark "(")
        let p ← call.phrase .targetWithStar
        discard (mark ")")
        return p,
     do let t ← mark "("
        let ps ← attempt (do
          let first ← call.phrase .starTarget
          discard (mark ",")
          let more ← attempt (commaList (call.phrase .starTarget))
          return first :: more.getD [])
        discard (mark ")")
        let ps := ps.getD []
        return .mk t.line (.tuple (ps.map (·.term))) ps,
     do let t ← mark "["
        let ps ← attempt (commaList (call.phrase .starTarget))
        discard (mark "]")
        let ps := ps.getD []
        return .mk t.line (.list (ps.map (·.term))) ps]

/-- A single target. -/
def singleTarget : Read Phrase :=
  firstOf
    [targetEnd call, namePhrase,
     do discard (mark "(")
        let p ← call.phrase .singleTarget
        discard (mark ")")
        return p]

/-- A target of a deletion. -/
def deleteTarget : Read Phrase :=
  firstOf
    [targetEnd call, namePhrase,
     do discard (mark "(")
        let p ← call.phrase .deleteTarget
        discard (mark ")")
        return p,
     do let t ← mark "("
        discard (attempt (commaList (call.phrase .deleteTarget)))
        discard (mark ")")
        return .leaf t.line (.tuple []),
     do let t ← mark "["
        discard (attempt (commaList (call.phrase .deleteTarget)))
        discard (mark "]")
        return .leaf t.line (.list [])]

end Stencil.Expr.Grammar
