import Stencil.Expr.Grammar.Parameter
import Stencil.Expr.Grammar.Pattern
/-!
# Stencil.Expr.Grammar.Statement -- the rules of statements

Simple statements stand on one line, compound statements have blocks. Expressions and assignments
keep their terms; of other statements only the kind is kept.
-/

namespace Stencil.Expr.Grammar

variable (call : Call)

/-! ## Assignments -/

/-- The operators of augmented assignments. -/
def augmentSigns : List (String × BinaryOp) :=
  [("+=", .add), ("-=", .sub), ("*=", .mul), ("@=", .matMul), ("/=", .div), ("%=", .mod),
   ("&=", .bitAnd), ("|=", .bitOr), ("^=", .bitXor), ("<<=", .shiftLeft), (">>=", .shiftRight),
   ("**=", .pow), ("//=", .floorDiv)]

/-- The operator of an augmented assignment. -/
def augmentSign : Read BinaryOp :=
  firstOf (augmentSigns.map fun (s, op) => do discard (mark s); return op)

/-- What stands on the right of an assignment. -/
def assigned : Read Phrase := firstOf [call.phrase .yielded, call.phrase .starExpressions]

/-- What an annotation cannot stand after. -/
def unannotated : Nat → Read Phrase
  | 0 => mismatch
  | n + 1 =>
    firstOf
      [call.phrase .list, call.phrase .tuple,
       do discard (mark "(")
          let p ← unannotated n
          discard (mark ")")
          return p]

/-- Objections to assignments. -/
def misassigned : Read Statement :=
  let before : Read Unit :=
    discard (many (do call.skip .starTargets; discard (mark "=")))
  firstOf
    [do let a ← unannotated call bracketLimit
        discard (mark ":")
        call.skip .expression
        objectAt a.line (.annotatedSeveral a.describe),
     do let a ← call.phrase .starNamedExpression
        discard (mark ",")
        discard (many (call.phrases .starNamedExpressions))
        discard (mark ":")
        call.skip .expression
        objectAt a.line (.annotatedSeveral "tuple"),
     do let a ← call.phrase .expression
        discard (mark ":")
        call.skip .expression
        objectAt a.line .annotationTarget,
     do before
        let a ← call.phrase .starExpressions
        discard (mark "=")
        objectToTarget .assigned a,
     do before
        let a ← call.phrase .yielded
        discard (mark "=")
        objectAt a.line .assignToYield,
     do let a ← call.phrase .starExpressions
        discard augmentSign
        discard (assigned call)
        objectAt a.line (.badAugmented a.describe)]

/-- An assignment. After the operator of an augmented one there is no way back. -/
def assignmentStatement : Read Statement := do
  let annotated (target : Read Unit) : Read Statement := do
    target
    discard (mark ":")
    call.skip .expression
    discard (attempt (do discard (mark "="); assigned call))
    return .absent .annotated
  let plain ← attempt (firstOf
    [annotated (discard nameToken),
     annotated (firstOf
      [do discard (mark "("); call.skip .singleTarget; discard (mark ")"),
       discard (targetEnd call)]),
     do let targets ← many1 (do
          let t ← call.phrase .starTargets
          discard (mark "=")
          return t.term)
        let v ← assigned call
        notAhead (mark "=")
        return .assign targets v.term])
  match plain with
  | some s => return s
  | none =>
    match ← attempt (do return (← call.phrase .singleTarget, ← augmentSign)) with
    | some (target, op) => return .augment target.term op (← assigned call).term
    | none => objection (misassigned call)

/-! ## Simple statements -/

/-- Names with dots between them. -/
def dottedName : Read Unit := discard (separated nameToken (mark "."))

/-- Another name, if one follows. -/
def otherName : Read Unit := discard (attempt (do discard (word "as"); nameToken))

/-- `from` with what is imported. -/
def importFrom : Read Statement := do
  let names : Read Unit :=
    discard (separated (do discard nameToken; otherName) (mark ","))
  discard (word "from")
  let dots ← many (firstOf [mark ".", mark "..."])
  if dots.isEmpty then dottedName else discard (attempt dottedName)
  discard (word "import")
  firstOf
    [do discard (mark "("); names; discard (attempt (mark ",")); discard (mark ")"),
     do names; notAhead (mark ","),
     discard (mark "*"),
     objection do
      names
      discard (mark ",")
      discard (kind .newline)
      object .trailingComma]
  return .absent .importFrom

/-- A statement that is a word with expressions after it. -/
def wordStatement (spelling : String) (k : AbsentStatement) (rest : Read Unit) :
    Read Statement := do
  discard (word spelling)
  rest
  return .absent k

/-- Names with commas between them. -/
def names : Read Unit := discard (separated nameToken (mark ","))

/-- `del` with its targets. -/
def deletion : Read Statement :=
  firstOf
    [wordStatement "del" .delete (do
      discard (commaList (call.phrase .deleteTarget))
      ahead (firstOf [discard (mark ";"), discard (kind .newline)])),
     objection do
      discard (word "del")
      objectToTarget .deleted (← call.phrase .starExpressions)]

/-- A simple statement. -/
def simpleStatement : Read Statement :=
  firstOf
    [assignmentStatement call,
     do return .expression (← call.phrase .starExpressions).term,
     wordStatement "return" .return_ (discard (attempt (call.skip .starExpressions))),
     wordStatement "import" .import_
      (discard (separated (do dottedName; otherName) (mark ","))),
     importFrom,
     wordStatement "raise" .raise (discard (attempt (do
      call.skip .expression
      discard (attempt (do discard (word "from"); call.skip .expression))))),
     wordStatement "pass" .pass (pure ()),
     deletion call,
     do return .expression (← call.phrase .yielded).term,
     wordStatement "assert" .assert (do
      call.skip .expression
      discard (attempt (do discard (mark ","); call.skip .expression))),
     wordStatement "break" .break_ (pure ()),
     wordStatement "continue" .continue_ (pure ()),
     wordStatement "global" .global names,
     wordStatement "nonlocal" .nonlocal names]

/-- The simple statements of a line. -/
def simpleStatements : Read (List Statement) := do
  let one : Read (List Statement) := call.statements .simpleStatement
  firstOf
    [do let s ← one
        notAhead (mark ";")
        discard (kind .newline)
        return s,
     do let ss ← separated one (mark ";")
        discard (attempt (mark ";"))
        discard (kind .newline)
        return ss.flatten]

/-! ## Blocks -/

/-- A block: indented lines, or simple statements on the same line. -/
def block : Read Unit :=
  firstOf
    [do discard (kind .newline)
        discard (kind .indent)
        call.skip .statements
        discard (kind .dedent),
     discard (simpleStatements call),
     objection do
      discard (kind .newline)
      notAhead (kind .indent)
      object (.blockExpected "")]

/-- Object to a line end where a block has to follow. -/
def blockMissing (opener : Token) (what : String) : Read Unit := do
  discard (kind .newline)
  notAhead (kind .indent)
  object (.blockExpected (" after " ++ what ++ " on line " ++ toString opener.line))

/-- What a statement of a word is called. -/
def statementCalled (spelling : String) : String := "'" ++ spelling ++ "' statement"

/-- Object to a line end where a colon has to follow. -/
def colonMissing : Read Unit := do
  discard (kind .newline)
  object (.expected "':'")

/-- A word and what follows it, a colon and a block. -/
def blockAfter (spelling : String) (head : Read Unit) : Read Unit :=
  firstOf
    [objection (firstOf
      [do discard (word spelling); head; colonMissing,
       do let t ← word spelling
          head
          discard (mark ":")
          blockMissing t (statementCalled spelling)]),
     do discard (word spelling)
        head
        discard (mark ":")
        call.skip .block]

/-- A word that only a colon and a block may follow. -/
def bareBlock (spelling : String) : Read Unit :=
  firstOf
    [objection do
      let t ← word spelling
      discard (mark ":")
      blockMissing t (statementCalled spelling),
     do discard (word spelling)
        discard (require ":")
        call.skip .block]

/-- The last block of a statement, if there is one. -/
def lastBlock : Read Unit := discard (attempt (bareBlock call "else"))

/-! ## Compound statements -/

/-- A statement that starts with `if`. -/
def ifStatement : Read Unit := do
  let test : Read Unit := call.skip .namedExpression
  blockAfter call "if" test
  discard (many (blockAfter call "elif" test))
  lastBlock call

/-- `async`, if it stands here. -/
def asyncWord : Read Bool := do return (← attempt (word "async")).isSome

/-- A statement that starts with `for`. After `in` there is no way back. -/
def forStatement : Read Statement := do
  let head : Read (Bool × Token) := do
    let a ← asyncWord
    let t ← word "for"
    call.skip .starTargets
    discard (word "in")
    return (a, t)
  discard (attempt (objection do
    let (_, t) ← head
    call.skip .starExpressions
    discard (mark ":")
    blockMissing t (statementCalled "for")))
  match ← attempt head with
  | some (a, _) =>
    call.skip .starExpressions
    discard (require ":")
    call.skip .block
    lastBlock call
    return .absent (if a then .asyncFor else .for_)
  | none =>
    objection do
      discard asyncWord
      discard (word "for")
      objectToTarget .looped (← call.phrase .starExpressions)

/-- What a `with` statement opens, maybe with a target for it. -/
def opened : Read Unit :=
  firstOf
    [do call.skip .expression
        discard (word "as")
        call.skip .starTarget
        ahead (firstOf [mark ",", mark ")", mark ":"]),
     objection do
      call.skip .expression
      discard (word "as")
      let a ← call.phrase .expression
      ahead (firstOf [mark ",", mark ")", mark ":"])
      objectToTarget .assigned a,
     call.skip .expression]

/-- A statement that starts with `with`. -/
def withStatement : Read Statement := do
  let start : Read (Bool × Token) := do return (← asyncWord, ← word "with")
  let named (several : Bool) : Read Unit := do
    if several then call.skip .starExpressions else call.skip .expression
    discard (attempt (do discard (word "as"); call.skip .starTarget))
  let plain (several : Bool) : Read Unit := discard (separated (named several) (mark ","))
  let enclosed : Read Unit := do
    discard (mark "(")
    plain true
    discard (attempt (mark ","))
    discard (mark ")")
  firstOf
    [objection (firstOf
      [do let (_, t) ← start
          plain false
          discard (mark ":")
          blockMissing t (statementCalled "with")
          mismatch,
       do let (_, t) ← start
          enclosed
          discard (mark ":")
          blockMissing t (statementCalled "with")
          mismatch]),
     do let (a, _) ← start
        discard (mark "(")
        discard (commaList (opened call))
        discard (mark ")")
        discard (mark ":")
        call.skip .block
        return .absent (if a then .asyncWith else .with_),
     do let (a, _) ← start
        discard (separated (opened call) (mark ","))
        discard (mark ":")
        call.skip .block
        return .absent (if a then .asyncWith else .with_),
     objection (firstOf
      [do discard start; plain false; colonMissing; mismatch,
       do discard start; enclosed; colonMissing; mismatch])]

/-- Objections to a handler. -/
def badHandler : Read Unit :=
  let caughtName : Read Unit := discard (attempt (do discard (word "as"); nameToken))
  let star : Read Unit := discard (attempt (mark "*"))
  firstOf
    [do discard (word "except")
        star
        let a ← call.phrase .expression
        discard (mark ",")
        discard (commaList (call.phrase .expression))
        caughtName
        discard (mark ":")
        objectAt a.line .severalCaught,
     do discard (word "except")
        star
        call.skip .expression
        caughtName
        colonMissing,
     do discard (word "except")
        colonMissing,
     do discard (word "except")
        discard (mark "*")
        discard (firstOf [kind .newline, mark ":"])
        object .nothingCaught]

/-- A handler of exceptions, of groups of them when starred. -/
def handler (inGroups : Bool) : Read Unit :=
  let head : Read Token := do
    let t ← word "except"
    if inGroups then discard (mark "*")
    return t
  let caught : Read Unit := do
    call.skip .expression
    discard (attempt (do discard (word "as"); nameToken))
  let called := statementCalled (if inGroups then "except*" else "except")
  let bare : Read Unit := guarded (!inGroups) (pure ())
  firstOf
    [objection (firstOf
      [do let t ← head; caught; discard (mark ":"); blockMissing t called,
       do bare; let t ← head; discard (mark ":"); blockMissing t called]),
     do discard head; caught; discard (mark ":"); call.skip .block,
     do bare; discard head; discard (mark ":"); call.skip .block,
     objection (badHandler call)]

/-- A statement that starts with `try`. -/
def tryStatement : Read Statement :=
  let start : Read Unit := do
    discard (word "try")
    discard (require ":")
    call.skip .block
  let final : Read Unit := bareBlock call "finally"
  let handlers (inGroups : Bool) : Read Unit := discard (many1 (handler call inGroups))
  firstOf
    [objection (firstOf
      [do let t ← word "try"
          discard (mark ":")
          blockMissing t (statementCalled "try")
          mismatch,
       do discard (word "try")
          discard (mark ":")
          call.skip .block
          notAhead (firstOf [word "except", word "finally"])
          object .handlerExpected,
       do discard (word "try")
          discard (mark ":")
          discard (many (call.skip .block))
          firstOf
            [do handlers false; handler call true,
             do handlers true; handler call false]
          discard (many (call.skip .block))
          object .mixedHandlers]),
     do start; final; return .absent .try_,
     do start; handlers false; lastBlock call; discard (attempt final); return .absent .try_,
     do start; handlers true; lastBlock call; discard (attempt final); return .absent .tryStar]

/-- Decorators. -/
def decorators : Read Unit :=
  discard (many (do discard (mark "@"); call.skip .namedExpression; discard (kind .newline)))

/-- The definition of a function. -/
def functionDefinition : Read Statement := do
  let parameters : Read Unit := discard (attempt ((functionStyle call).all call))
  let result : Read Unit := discard (attempt (do discard (mark "->"); call.skip .expression))
  decorators call
  firstOf
    [objection do
      discard asyncWord
      let t ← word "def"
      discard nameToken
      discard (mark "(")
      parameters
      discard (mark ")")
      result
      discard (mark ":")
      blockMissing t "function definition"
      mismatch,
     do let a ← asyncWord
        discard (word "def")
        discard nameToken
        discard (require "(")
        parameters
        discard (mark ")")
        result
        discard (require ":")
        call.skip .block
        return .absent (if a then .asyncFunction else .function)]

/-- The definition of a class. -/
def classDefinition : Read Statement := do
  let head : Read Token := do
    let t ← word "class"
    discard nameToken
    discard (attempt (do
      discard (mark "(")
      discard (attempt (call.callArgs .arguments))
      discard (mark ")")))
    return t
  decorators call
  firstOf
    [objection (firstOf
      [do discard head; colonMissing; mismatch,
       do let t ← head
          discard (mark ":")
          blockMissing t "class definition"
          mismatch]),
     do discard head
        discard (mark ":")
        call.skip .block
        return .absent .class_]

/-- A block that starts with `case`. -/
def caseBlock : Read Unit :=
  blockAfter call "case" (do
    call.skip .patterns
    discard (attempt (do discard (word "if"); call.skip .namedExpression)))

/-- A statement that starts with `match`. -/
def matchStatement : Read Statement :=
  let head : Read Token := do
    let t ← word "match"
    firstOf
      [do call.skip .starNamedExpression
          discard (mark ",")
          discard (attempt (call.skip .starNamedExpressions)),
       call.skip .namedExpression]
    return t
  firstOf
    [do discard head
        discard (mark ":")
        discard (kind .newline)
        discard (kind .indent)
        discard (many1 (caseBlock call))
        discard (kind .dedent)
        return .absent .match_,
     objection (firstOf
      [do discard head; colonMissing; mismatch,
       do let t ← head
          discard (mark ":")
          blockMissing t (statementCalled "match")
          mismatch])]

/-- A compound statement. -/
def compoundStatement : Read Statement :=
  let opens (spellings : List String) : Read Unit :=
    ahead (firstOf (spellings.map word))
  let decorated (spellings : List String) : Read Unit :=
    ahead (firstOf (discard (mark "@") :: spellings.map fun s => discard (word s)))
  firstOf
    [do decorated ["def", "async"]; functionDefinition call,
     do opens ["if"]; ifStatement call; return .absent .if_,
     do decorated ["class"]; classDefinition call,
     do opens ["with", "async"]; withStatement call,
     do opens ["for", "async"]; forStatement call,
     do opens ["try"]; tryStatement call,
     do opens ["while"]
        blockAfter call "while" (call.skip .namedExpression)
        lastBlock call
        return .absent .while_,
     matchStatement call]

/-- One compound statement, or the simple statements of a line. -/
def statement : Read (List Statement) :=
  firstOf
    [do return [← compoundStatement call],
     simpleStatements call]

end Stencil.Expr.Grammar
