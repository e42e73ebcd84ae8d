import Stencil.Expr.Literal
import Stencil.Expr.Token
import Std.Data.TreeMap
/-!
# Stencil.Expr.Grammar.Basic -- reading tokens by rules

The grammar is a set of rules. A rule tries its alternatives in order and takes the first that fits,
so each text has one reading. Rules call each other through a parameter, which is tied in one place
with the table of what has been read where. A text that no rule fits is read a second time; then
the rules also know what is commonly written wrong and object to it by a cause of its own.
-/

namespace Stencil.Expr.Grammar

/-! ## What is read -/

/-- A term as it was read: the line on which it starts, and those parts of it that are targets of
their own when the term is assigned to. -/
inductive Phrase where
  | mk (line : Nat) (term : Term) (parts : List Phrase)
  deriving Inhabited

namespace Phrase

/-- The line on which a phrase starts. -/
def line : Phrase → Nat
  | mk l _ _ => l

/-- The term of a phrase. -/
def term : Phrase → Term
  | mk _ t _ => t

/-- The parts of a phrase. -/
def parts : Phrase → List Phrase
  | mk _ _ ps => ps

/-- A phrase without parts. -/
def leaf (line : Nat) (t : Term) : Phrase := .mk line t []

/-- What a phrase is called in a fault. -/
def describe (p : Phrase) : String := p.term.describe

end Phrase

/-- The arguments of a call as they were read. -/
structure CallArgs where
  line : Nat
  positional : List Phrase
  named : List Named
  deriving Inhabited

/-- What a rule reads. -/
inductive Node where
  | nothing
  | phrase (p : Phrase)
  | phrases (ps : List Phrase)
  | clauses (cs : List Clause)
  | entry (i : Item)
  | args (a : CallArgs)
  | statements (ss : List Statement)
  deriving Inhabited

/-- The rules that are called from several places. -/
inductive Rule where
  | program | fieldTerm
  | statements | statement | simpleStatement | block
  | starExpressions | starExpression | starNamedExpressions | starNamedExpression
  | namedExpression | misnamed | expression | plainExpression
  | disjunction | conjunction | inversion | comparison
  | bitOr | bitXor | bitAnd | shift | sum | product | factor | power | awaited | primary | atom
  | slices | slice | group | tuple | list | generator | listComprehension
  | set | setComprehension | dict | dictComprehension | entry | texts | lambda
  | arguments | args | clauses | yielded
  | starTargets | starTarget | targetWithStar | starAtom | targetBase | singleTarget | deleteTarget
  | pattern | closedPattern | patterns
  deriving DecidableEq, Ord, Repr

/-- The rules whose readings are kept across both ways of reading, objecting and not. -/
def Rule.isShared : Rule → Bool
  | .simpleStatement | .block | .starExpression | .misnamed | .expression
  | .disjunction | .conjunction | .inversion
  | .bitOr | .bitXor | .bitAnd | .shift | .sum | .product | .factor | .awaited | .primary
  | .texts | .arguments | .starTarget | .targetWithStar | .targetBase | .deleteTarget
  | .closedPattern => true
  | _ => false

/-! ## Reading -/

/-- What does not change while a text is read. -/
structure Setting where
  tokens : Tokens
  /-- Whether rules object to what is commonly written wrong. -/
  objecting : Bool
  /-- Whether the text is a field of a formatted text. -/
  inField : Bool
  /-- How a field of a formatted text is read: its line and its characters. -/
  readField : Nat → List Char → Except GrammarFault Term

/-- The place where a rule was tried, the rule, and whether it objects. -/
structure Place where
  token : Nat
  rule : Rule
  objecting : Bool
  deriving Ord

/-- How far a text has been read: the next token, how many tokens have been looked at, and what
rules have read where. -/
structure Progress where
  next : Nat := 0
  seen : Nat := 0
  table : Std.TreeMap Place (Option (Node × Nat)) := {}

/-- Why a rule reads nothing. -/
inductive Refusal where
  /-- It does not fit. -/
  | mismatch
  /-- The text is faulty. -/
  | objection (f : GrammarFault)
  /-- The text cannot be cut into tokens here. -/
  | cut (f : GrammarFault)

/-- Reading tokens. -/
abbrev Read := ReaderT Setting (EStateM Refusal Progress)

section

variable {α β : Type}

/-- Not to fit. -/
def mismatch : Read α := fun _ s => .error .mismatch s

/-- Go back to a token when nothing fits. -/
@[noinline] def backUnlessFit (here : Nat) :
    EStateM.Result Refusal Progress α → EStateM.Result Refusal Progress (Option α)
  | .ok a s => .ok (some a) s
  | .error .mismatch s => .ok none { s with next := here }
  | .error e s => .error e s

/-- Go back to a token after something fits. -/
@[noinline] def backAfter (here : Nat) :
    EStateM.Result Refusal Progress α → EStateM.Result Refusal Progress Unit
  | .ok _ s => .ok () { s with next := here }
  | .error e s => .error e s

/-- Try to read; go back when it does not fit. -/
def attempt (p : Read α) : Read (Option α) := fun env s => backUnlessFit s.next (p env s)

/-- The first alternative that fits. -/
def firstOf : List (Read α) → Read α
  | [] => mismatch
  | [p] => p
  | p :: ps => do
    match ← attempt p with
    | some a => return a
    | none => firstOf ps

/-- Read nothing, provided that something fits here. -/
def ahead (p : Read α) : Read Unit := fun env s => backAfter s.next (p env s)

/-- Read nothing, provided that something does not fit here. -/
def notAhead (p : Read α) : Read Unit := do
  match ← attempt (ahead p) with
  | some _ => mismatch
  | none => return ()

/-- Read as often as it fits, up to a number of times. -/
def repeatUpTo (p : Read α) : Nat → Read (List α)
  | 0 => return []
  | n + 1 => do
    match ← attempt p with
    | some a => return a :: (← repeatUpTo p n)
    | none => return []

/-- Read as often as it fits. -/
def many (p : Read α) : Read (List α) := do repeatUpTo p ((← read).tokens.items.size + 1)

/-- Read at least once and as often as it fits. -/
def many1 (p : Read α) : Read (List α) := do return (← p) :: (← many p)

/-- Read at least once, with something in between. -/
def separated (p : Read α) (sep : Read β) : Read (List α) := do
  let a ← p
  return a :: (← many (do discard sep; p))

/-- Read under a condition. -/
def guarded (b : Bool) (p : Read α) : Read α := if b then p else mismatch

/-- Read only when objecting. -/
def objection (p : Read α) : Read α := do guarded (← read).objecting p

/-- Read without objecting. -/
def unobjecting (p : Read α) : Read α := fun env s => p { env with objecting := false } s

end

/-! ## Tokens -/

/-- Look at the next token. -/
def peek : Read Token := fun env s =>
  match env.tokens.items[s.next]? with
  | some t => .ok t { s with seen := max s.seen (s.next + 1) }
  | none =>
    match env.tokens.ending with
    | .complete => .error .mismatch s
    | .broken f | .stuck f _ => .error (.cut f) s

/-- Go on to the next token. -/
def advance : Read Unit := modify fun s => { s with next := s.next + 1 }

/-- Read a token that satisfies a condition. -/
def tokenWhere (p : Token → Bool) : Read Token := do
  let t ← peek
  guarded (p t) (do advance; return t)

/-- Read a mark. -/
def mark (spelling : String) : Read Token :=
  tokenWhere fun t => t.kind == .mark && t.spelling == spelling

/-- Read a word. -/
def word (spelling : String) : Read Token :=
  tokenWhere fun t => t.kind == .name && t.spelling == spelling

/-- Read a token of a kind. -/
def kind (k : TokenKind) : Read Token := tokenWhere fun t => t.kind == k

/-- The words that are no names. -/
def reservedWords : List String :=
  ["False", "None", "True", "and", "as", "assert", "async", "await", "break", "class", "continue",
   "def", "del", "elif", "else", "except", "finally", "for", "from", "global", "if", "import", "in",
   "is", "lambda", "nonlocal", "not", "or", "pass", "raise", "return", "try", "while", "with",
   "yield"]

/-- Read a name. -/
def nameToken : Read Token :=
  tokenWhere fun t => t.kind == .name && !reservedWords.contains t.spelling

/-- The name a token stands for: other forms of the same characters are the same name. -/
def nameOf (t : Token) : String :=
  if t.spelling.toList.any fun c => decide (c.toNat ≥ 128) then
    String.ofList (Text.normalForm t.spelling.toList)
  else t.spelling

/-- Read a name as a phrase. -/
def namePhrase : Read Phrase := do
  let t ← nameToken
  return .leaf t.line (.name (nameOf t))

/-- The token read last. -/
def lastRead : Read Token := do
  let s ← get
  return ((← read).tokens.items[s.next - 1]?).getD default

/-! ## Objections -/

section

variable {α : Type}

/-- Object to the text on a line. -/
def objectAt (line : Nat) (cause : GrammarCause) : Read α := fun env s =>
  .error (.objection ⟨if env.inField then .inFstring cause else cause, line⟩) s

/-- Object to the text at the token that was looked at last. -/
def object (cause : GrammarCause) : Read α := do
  let s ← get
  objectAt ((((← read).tokens.items[s.seen - 1]?).map (·.line)).getD 1) cause

/-- Read a mark that has to follow. -/
def require (spelling : String) : Read Token := do
  let t ← peek
  if t.kind == .mark && t.spelling == spelling then
    advance
    return t
  else objectAt t.line (.expected ("'" ++ spelling ++ "'"))

end

/-! ## Targets -/

/-- What a phrase is tried to be used as. -/
inductive Target where
  | assigned | deleted | looped
  deriving DecidableEq, Repr

mutual

/-- The part of a phrase that is no target, if there is one. -/
def invalidTarget? (use : Target) : Phrase → Option Phrase
  | .mk l t ps =>
    match t with
    | .list _ | .tuple _ => invalidTargets? use ps
    | .starred _ => if use == .deleted then some (.mk l t ps) else invalidTargets? use ps
    | .compare _ (.mk .isIn _ :: _) =>
      if use == .looped then invalidTargets? use ps else some (.mk l t ps)
    | .compare .. => if use == .looped then none else some (.mk l t ps)
    | .name _ | .subscript .. | .attribute .. => none
    | _ => some (.mk l t ps)

/-- The first part of several phrases that is no target. -/
def invalidTargets? (use : Target) : List Phrase → Option Phrase
  | [] => none
  | p :: ps =>
    match invalidTarget? use p with
    | some q => some q
    | none => invalidTargets? use ps

end

/-- Object to a phrase that is no target; otherwise not to fit. -/
def objectToTarget {α : Type} (use : Target) (p : Phrase) : Read α :=
  match invalidTarget? use p with
  | some q =>
    objectAt q.line (.badTarget (if use == .deleted then .delete else .assign) q.describe)
  | none => mismatch

/-! ## Calling rules -/

/-- How rules call each other. -/
structure Call where
  node : Rule → Read Node

namespace Call

/-- Call a rule that reads a phrase. -/
def phrase (call : Call) (r : Rule) : Read Phrase := do
  match ← call.node r with
  | .phrase p => return p
  | _ => mismatch

/-- Call a rule that reads phrases. -/
def phrases (call : Call) (r : Rule) : Read (List Phrase) := do
  match ← call.node r with
  | .phrases ps => return ps
  | _ => mismatch

/-- Call the rule that reads the clauses of a comprehension. -/
def clauses (call : Call) : Read (List Clause) := do
  match ← call.node .clauses with
  | .clauses cs => return cs
  | _ => mismatch

/-- Call the rule that reads an entry of a dictionary. -/
def entry (call : Call) : Read Item := do
  match ← call.node .entry with
  | .entry i => return i
  | _ => mismatch

/-- Call a rule that reads arguments. -/
def callArgs (call : Call) (r : Rule) : Read CallArgs := do
  match ← call.node r with
  | .args a => return a
  | _ => mismatch

/-- Call a rule that reads statements. -/
def statements (call : Call) (r : Rule) : Read (List Statement) := do
  match ← call.node r with
  | .statements ss => return ss
  | _ => mismatch

/-- Call a rule for what it fits, not for what it reads. -/
def skip (call : Call) (r : Rule) : Read Unit := discard (call.node r)

end Call

/-- Read a term as a phrase that starts on the line of the next token. -/
def located (p : Read Term) : Read Phrase := do
  let t ← peek
  return .leaf t.line (← p)

end Stencil.Expr.Grammar
