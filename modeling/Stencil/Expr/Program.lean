import Stencil.Expr.Grammar.Statement
/-!
# Stencil.Expr.Program -- reading a program text

The rules of the grammar are tied together here. What a rule reads at a place is kept in a table, so
nothing is read twice at the same place. A text that does not fit is read once more with objections;
when there is none, the fault lies at the token that was looked at last. If the text cannot be cut
into tokens further on, that is told instead.
-/

namespace Stencil.Expr.Grammar

/-! ## Tying the rules -/

/-- What a rule reads, given how rules call each other. -/
def step (call : Call) (r : Rule) : Read Node := do
  match r with
  | .program => do
    let ss ← attempt (call.statements .statements)
    discard (kind .finish)
    return .statements (ss.getD [])
  | .fieldTerm => return .phrase (← call.phrase .starExpressions)
  | .statements => return .statements (← many1 (call.statements .statement)).flatten
  | .statement => return .statements (← statement call)
  | .simpleStatement => return .statements [← simpleStatement call]
  | .block => do block call; return .nothing
  | .starExpressions => return .phrase (← tupleOf (call.phrase .starExpression))
  | .starExpression =>
    return .phrase (← firstOf [starred (call.phrase .bitOr), call.phrase .expression])
  | .starNamedExpressions => return .phrases (← commaList (call.phrase .starNamedExpression))
  | .starNamedExpression =>
    return .phrase (← firstOf [starred (call.phrase .bitOr), call.phrase .namedExpression])
  | .namedExpression => return .phrase (← namedExpression call)
  | .misnamed => misnamed call
  | .expression => return .phrase (← expression call)
  | .plainExpression =>
    return .phrase (← firstOf
      [conditional call, call.phrase .disjunction, call.phrase .lambda])
  | .disjunction => return .phrase (← junction call false .conjunction "or")
  | .conjunction => return .phrase (← junction call true .inversion "and")
  | .inversion => return .phrase (← inversion call)
  | .comparison => return .phrase (← comparison call)
  | .bitOr => return .phrase (← leftGrouped call .bitXor [("|", .bitOr)])
  | .bitXor => return .phrase (← leftGrouped call .bitAnd [("^", .bitXor)])
  | .bitAnd => return .phrase (← leftGrouped call .shift [("&", .bitAnd)])
  | .shift =>
    return .phrase (← leftGrouped call .sum [("<<", .shiftLeft), (">>", .shiftRight)])
  | .sum => return .phrase (← leftGrouped call .product [("+", .add), ("-", .sub)])
  | .product =>
    return .phrase (← leftGrouped call .factor
      [("*", .mul), ("/", .div), ("//", .floorDiv), ("%", .mod), ("@", .matMul)])
  | .factor => return .phrase (← factor call)
  | .power => return .phrase (← power call)
  | .awaited => return .phrase (← awaited call)
  | .primary => return .phrase (← primary call)
  | .atom => return .phrase (← atom call)
  | .slices => return .phrase (← slices call)
  | .slice => return .phrase (← slice call)
  | .group => return .phrase (← group call)
  | .tuple => return .phrase (← tuple call)
  | .list => return .phrase (← list call)
  | .generator =>
    return .phrase (← comprehension call "(" ")" (generated call) (.comprehension true))
  | .listComprehension =>
    return .phrase (← comprehension call "[" "]" (call.phrase .namedExpression)
      (.comprehension false))
  | .set => return .phrase (← set call)
  | .setComprehension =>
    return .phrase (← comprehension call "\x7b" "\x7d" (call.phrase .namedExpression)
      fun _ _ => .absent .setComprehension)
  | .dict => return .phrase (← dict call)
  | .dictComprehension => return .phrase (← dictComprehension call)
  | .entry => return .entry (← entry call)
  | .texts => return .phrase (← texts)
  | .lambda => return .phrase (← lambda call)
  | .arguments => return .args (← arguments call)
  | .args => return .args (← args call)
  | .clauses => return .clauses (← many1 (clause call))
  | .yielded => return .phrase (← yielded call)
  | .starTargets => return .phrase (← starTargets call)
  | .starTarget => return .phrase (← starTarget call)
  | .targetWithStar => return .phrase (← firstOf [targetEnd call, call.phrase .starAtom])
  | .starAtom => return .phrase (← starAtom call)
  | .targetBase => return .phrase (← targetBase call)
  | .singleTarget => return .phrase (← singleTarget call)
  | .deleteTarget => return .phrase (← deleteTarget call)
  | .pattern => do pattern call; return .nothing
  | .closedPattern => do closedPattern call; return .nothing
  | .patterns => do patterns call; return .nothing

/-- Look up what a rule reads here, or find out and keep it. -/
def remembered (r : Rule) (p : Read Node) : Read Node := fun env s =>
  let place : Place := ⟨s.next, r, !r.isShared && env.objecting⟩
  match s.table[place]? with
  | some (some (n, next)) => .ok n { s with next := next }
  | some none => .error .mismatch s
  | none =>
    match p env s with
    | .ok n s' => .ok n { s' with table := s'.table.insert place (some (n, s'.next)) }
    | .error .mismatch s' =>
      .error .mismatch { s' with table := s'.table.insert place none }
    | .error e s' => .error e s'

/-- The rules, calling each other to a depth. -/
def rules : Nat → Call
  | 0 => ⟨fun _ => mismatch⟩
  | n + 1 => ⟨fun r => remembered r (step (rules n) r)⟩

/-- How deeply rules call each other at most over so many tokens: at one token no rule is called
from itself. -/
def depthFor (tokens : Nat) : Nat := 160 * (tokens + 2)

/-! ## Reading -/

/-- What is told of a text with a fault, when `seen` tokens of it have been looked at: characters
that make no token are told of first, and so is a bracket that is never closed on an earlier
line. -/
def objectionIn (ts : Tokens) (inField : Bool) (seen : Nat) (f : GrammarFault) :
    GrammarFault :=
  match ts.ending with
  | .complete => f
  | .broken g => g
  | .stuck _ none => f
  | .stuck _ (some (bracket, line)) =>
    if ((ts.items[seen - 1]?.map (·.line)).getD 1) > line then
      let cause := GrammarCause.neverClosed bracket
      ⟨if inField then .inFstring cause else cause, line⟩
    else f

/-- Read tokens by a rule. -/
def readTokens (ts : Tokens) (inField : Bool)
    (readField : Nat → List Char → Except GrammarFault Term) (r : Rule) :
    Except GrammarFault Node :=
  let call := rules (depthFor ts.items.size)
  let told (s : Progress) (f : GrammarFault) := Except.error (objectionIn ts inField s.seen f)
  match call.node r ⟨ts, false, inField, readField⟩ {} with
  | .ok n _ => .ok n
  | .error (.cut f) _ => .error f
  | .error (.objection f) s => told s f
  | .error .mismatch s =>
    let last := (ts.items[s.seen - 1]?).getD default
    let generic (s' : Progress) : Except GrammarFault Node :=
      let wrap (c : GrammarCause) : GrammarCause := if inField then .inFstring c else c
      let line := ((ts.items[s'.seen - 1]?).map (·.line)).getD 1
      match last.kind with
      | .indent => .error ⟨wrap .unexpectedIndent, line⟩
      | .dedent => .error ⟨wrap .unexpectedUnindent, line⟩
      | _ => told s' ⟨wrap .unexpected, last.line⟩
    match call.node r ⟨ts, true, inField, readField⟩ { seen := s.seen } with
    | .error (.cut f) _ => .error f
    | .error (.objection f) s' => told s' f
    | .error .mismatch s' => generic s'
    | .ok _ s' => generic s'

/-- Read a field of a formatted text, which starts on a line. A field is shorter than the text it
stands in, so fields are nested to a limited depth. -/
def readField : Nat → Nat → List Char → Except GrammarFault Term
  | 0, line, _ => .error ⟨.unexpected, line⟩
  | n + 1, line, s => do
    match ← readTokens (Tokens.ofText line s) true (readField n) .fieldTerm with
    | .phrase p => return p.term
    | _ => throw ⟨.unexpected, line⟩

end Grammar

open Grammar in
/-- Read a program text into its statements. -/
def readProgram (s : List Char) : Except GrammarFault (List Statement) := do
  match ← readTokens (Tokens.ofText 1 s) false (readField s.length) .program with
  | .statements ss => return ss
  | _ => throw ⟨.unexpected, 1⟩

end Stencil.Expr
