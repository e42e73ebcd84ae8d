import Stencil.Proofs.Charting
import Stencil.Proofs.NameTokens
/-!
# Stencil.Proofs.SoleNames -- texts that are a name and nothing else

A name that is no reserved word is read as the expression that it is, whatever else might start with
a name: a target, an assignment, a named expression, a `match` statement. All of these need something
behind the name, and behind it stands the end of the line, at which no rule fits. So the chart of a
name alone has two parts. At the ends of the line and of the text nothing fits that may start an
expression or a statement, by induction on how deeply the rules call each other. At the name itself
the rules fit from the atom up to the program, each because the one below it does and because no
sign of its own follows.
-/

namespace Stencil.Expr.Grammar

/-- The rules that are tried where a statement, an expression or a target may start. -/
def Rule.opens : Rule → Bool
  | .statement | .simpleStatement | .starExpressions | .starExpression | .starNamedExpression
  | .namedExpression | .expression | .disjunction | .conjunction | .inversion | .comparison
  | .bitOr | .bitXor | .bitAnd | .shift | .sum | .product | .factor | .power | .awaited
  | .primary | .atom | .generator | .lambda | .yielded | .starTargets | .starTarget
  | .targetWithStar | .starAtom | .targetBase | .singleTarget => true
  | _ => false

namespace Chart

variable {c : Chart} {call : Call} {i : Nat}

/-! ## What starts with a word or a mark -/

theorem Refuses.starred (hmark : c.Refuses (mark "*") i) (p : Read Phrase) :
    c.Refuses (starred p) i := hmark.bind

theorem Refuses.wordStatement {s : String} (hword : c.Refuses (word s) i) (k : AbsentStatement)
    (rest : Read Unit) : c.Refuses (wordStatement s k rest) i := hword.discard.bind

theorem Refuses.targetEnd (hbase : c.Refuses (call.node .targetBase) i) :
    c.Refuses (targetEnd call) i :=
  .cons hbase.phrase.bind (.cons hbase.phrase.bind (.nil i))

theorem refuses_words {ss : List String} (hword : ∀ s ∈ ss, c.Refuses (word s) i) :
    c.Refuses (ahead (firstOf (ss.map word))) i := by
  refine (refuses_firstOf fun p hp => ?_).ahead
  obtain ⟨s, hs, rfl⟩ := List.mem_map.1 hp
  exact hword s hs

theorem refuses_decorated {ss : List String} (hmark : c.Refuses (mark "@") i)
    (hword : ∀ s ∈ ss, c.Refuses (word s) i) :
    c.Refuses (ahead (firstOf (discard (mark "@") :: ss.map fun s => discard (word s)))) i := by
  refine (hmark.discard.cons (refuses_firstOf fun p hp => ?_)).ahead
  obtain ⟨s, hs, rfl⟩ := List.mem_map.1 hp
  exact (hword s hs).discard

/-- A compound statement starts with a reserved word or with `match`. -/
theorem refuses_compoundStatement (hmark : c.Refuses (mark "@") i)
    (hword : ∀ s ∈ reservedWords, c.Refuses (word s) i)
    (hmatch : c.Refuses (matchStatement call) i) : c.Refuses (compoundStatement call) i := by
  have hwords : ∀ ss : List String, ss ⊆ reservedWords → ∀ s ∈ ss, c.Refuses (word s) i :=
    fun ss hss s hs => hword s (hss hs)
  exact
    .cons (refuses_decorated hmark (hwords _ (by decide))).bind <|
    .cons (refuses_words (hwords ["if"] (by decide))).bind <|
    .cons (refuses_decorated hmark (hwords _ (by decide))).bind <|
    .cons (refuses_words (hwords ["with", "async"] (by decide))).bind <|
    .cons (refuses_words (hwords ["for", "async"] (by decide))).bind <|
    .cons (refuses_words (hwords ["try"] (by decide))).bind <|
    .cons (refuses_words (hwords ["while"] (by decide))).bind <|
    .cons hmatch (.nil i)

/-! ## Where nothing starts -/

/-- Nothing starts at a token. -/
structure Bare (c : Chart) (i : Nat) : Prop where
  mark : ∀ s, c.Refuses (mark s) i
  word : ∀ s, c.Refuses (word s) i
  name : c.Refuses nameToken i
  text : c.Refuses (kind .text) i
  number : c.Refuses (kind .number) i

/-- Nothing starts at the end of a line or of the text. -/
theorem bare_of_token {t : Token} (ht : c.tokens.items[i]? = some t)
    (hk : t.kind = .newline ∨ t.kind = .finish) : c.Bare i := by
  constructor <;> intros <;> refine refuses_tokenWhere ht ?_ <;> rcases hk with hk | hk <;>
    simp [hk]

section

variable (h : c.Bare i)
include h

theorem Bare.comparisonSign : c.Refuses comparisonSign i :=
  have hmark := fun s => (h.mark s).discard
  have hword := fun s => (h.word s).discard
  .cons (hmark _).bind <| .cons (hmark _).bind <| .cons (hmark _).bind <|
  .cons (hmark _).bind <| .cons (hmark _).bind <| .cons (hmark _).bind <|
  .cons (hword _).bind <| .cons (hword _).bind <| .cons (hword _).bind <|
  .cons (hword _).bind (.nil i)

theorem Bare.signs {α : Type} (signs : List (String × α)) :
    c.Refuses (firstOf (signs.map fun (s, a) => do discard (Grammar.mark s); return a)) i := by
  refine refuses_firstOf fun p hp => ?_
  obtain ⟨s, -, rfl⟩ := List.mem_map.1 hp
  exact (h.mark s.1).discard.bind

theorem Bare.trailer (hgenerator : c.Refuses (call.node .generator) i) :
    c.Refuses (trailer call) i :=
  .cons (h.mark _).discard.bind <| .cons hgenerator.phrase.bind <|
  .cons (h.mark _).discard.bind <| .cons (h.mark _).discard.bind (.nil i)

theorem Bare.goesOn : c.Refuses goesOn i :=
  (Refuses.cons (h.mark _) <| .cons (h.mark _) <| .cons (h.mark _) (.nil i)).discard

theorem Bare.atom : c.Refuses (atom call) i :=
  .cons h.name.bind <| .cons (h.word _).bind <| .cons (h.word _).bind <| .cons (h.word _).bind <|
  .cons h.text.ahead.bind <| .cons h.number.bind <| .cons (h.mark _).ahead.bind <|
  .cons (h.mark _).ahead.bind <| .cons (h.mark _).ahead.bind <| .cons (h.mark _).bind (.nil i)

theorem Bare.starAtom : c.Refuses (starAtom call) i :=
  .cons h.name.bind <| .cons (h.mark _).discard.bind <| .cons (h.mark _).bind <|
  .cons (h.mark _).bind (.nil i)

theorem Bare.compoundStatement : c.Refuses (compoundStatement call) i :=
  refuses_compoundStatement (h.mark _) (fun s _ => h.word s)
    (.cons (h.word _).bind.discard.bind (.cons (refuses_objection _ _) (.nil i)))

variable (hcall : ∀ r, r.opens → c.Refuses (call.node r) i)
include hcall

theorem Bare.assignmentStatement : c.Refuses (assignmentStatement call) i := by
  have htarget := (hcall .targetBase rfl).targetEnd.discard
  refine Fits.bind_refuses (Refuses.attempt ?_)
    (Fits.bind_refuses (Refuses.attempt ?_) (refuses_objection _ _))
  · exact .cons h.name.discard.bind <|
      .cons (Refuses.cons (h.mark _).discard.bind (.cons htarget (.nil i))).bind <|
      .cons (hcall .starTargets rfl).phrase.bind.many1.bind (.nil i)
  · exact (hcall .singleTarget rfl).phrase.bind

theorem Bare.simpleStatement : c.Refuses (simpleStatement call) i :=
  .cons (h.assignmentStatement hcall) <|
  .cons (hcall .starExpressions rfl).phrase.bind <|
  .cons ((h.word _).wordStatement _ _) <|
  .cons ((h.word _).wordStatement _ _) <|
  .cons (h.word _).discard.bind <|
  .cons ((h.word _).wordStatement _ _) <|
  .cons ((h.word _).wordStatement _ _) <|
  .cons (Refuses.cons ((h.word _).wordStatement _ _) (.cons (refuses_objection _ _) (.nil i))) <|
  .cons (hcall .yielded rfl).phrase.bind <|
  .cons ((h.word _).wordStatement _ _) <|
  .cons ((h.word _).wordStatement _ _) <|
  .cons ((h.word _).wordStatement _ _) <|
  .cons ((h.word _).wordStatement _ _) <|
  .cons ((h.word _).wordStatement _ _) (.nil i)

/-- Where nothing starts, no rule fits that is tried where something may start. -/
theorem Bare.step : ∀ r, r.opens → c.Refuses (step call r) i := by
  have hphrase := fun r hr => (hcall r hr).phrase
  intro r hr
  cases r with
  | statement =>
    have hone := (hcall .simpleStatement rfl).statements
    exact (Refuses.cons h.compoundStatement.bind
      (.cons (.cons hone.bind (.cons hone.separated.bind (.nil i))) (.nil i))).bind
  | simpleStatement => exact (h.simpleStatement hcall).bind
  | starExpressions => exact (hphrase .starExpression rfl).bind.bind
  | starExpression =>
    exact (Refuses.cons ((h.mark _).starred _) (.cons (hphrase .expression rfl) (.nil i))).bind
  | starNamedExpression =>
    exact (Refuses.cons ((h.mark _).starred _)
      (.cons (hphrase .namedExpression rfl) (.nil i))).bind
  | namedExpression =>
    exact (Refuses.cons h.name.bind
      (.cons (refuses_objection _ _) (.cons (hphrase .expression rfl).bind (.nil i)))).bind
  | expression =>
    have hoperand := hphrase .disjunction rfl
    exact (Refuses.cons (refuses_objection _ _) <| .cons (refuses_objection _ _) <|
      .cons hoperand.bind <| .cons hoperand <| .cons (hphrase .lambda rfl) (.nil i)).bind
  | disjunction => exact (hphrase .conjunction rfl).bind.bind
  | conjunction => exact (hphrase .inversion rfl).bind.bind
  | inversion =>
    exact (Refuses.cons (h.word _).bind (.cons (hphrase .comparison rfl) (.nil i))).bind
  | comparison => exact (hphrase .bitOr rfl).bind.bind
  | bitOr => exact (hphrase .bitXor rfl).bind.bind
  | bitXor => exact (hphrase .bitAnd rfl).bind.bind
  | bitAnd => exact (hphrase .shift rfl).bind.bind
  | shift => exact (hphrase .sum rfl).bind.bind
  | sum => exact (hphrase .product rfl).bind.bind
  | product => exact (hphrase .factor rfl).bind.bind
  | factor =>
    exact (Refuses.cons (h.mark _).bind <| .cons (h.mark _).bind <| .cons (h.mark _).bind <|
      .cons (hphrase .power rfl) (.nil i)).bind
  | power => exact (hphrase .awaited rfl).bind.bind
  | awaited => exact (Refuses.cons (h.word _).bind (.cons (hphrase .primary rfl) (.nil i))).bind
  | primary => exact (hphrase .atom rfl).bind.bind
  | atom => exact h.atom.bind
  | generator =>
    exact (Refuses.cons (h.mark _).bind (.cons (refuses_objection _ _) (.nil i))).bind
  | lambda => exact (h.word _).bind.bind
  | yielded => exact (h.word _).bind.bind
  | starTargets =>
    have htarget := hphrase .starTarget rfl
    exact (Refuses.cons htarget.bind (.cons htarget.separated.bind.bind (.nil i))).bind
  | starTarget =>
    exact (Refuses.cons ((h.mark _).starred _) (.cons (hphrase .targetWithStar rfl) (.nil i))).bind
  | targetWithStar =>
    exact (Refuses.cons (hcall .targetBase rfl).targetEnd
      (.cons (hphrase .starAtom rfl) (.nil i))).bind
  | starAtom => exact h.starAtom.bind
  | targetBase => exact (hphrase .atom rfl).bind.bind
  | singleTarget =>
    exact (Refuses.cons (hcall .targetBase rfl).targetEnd <| .cons h.name.bind <|
      .cons (h.mark _).discard.bind (.nil i)).bind
  | _ => cases hr

end

/-- Where nothing starts, no rule fits, however deeply the rules call each other. -/
theorem Bare.rules (h : c.Bare i) (hnone : ∀ r, r.opens → c.answer i r = none) (n : Nat) :
    ∀ r, r.opens → c.Refuses ((rules n).node r) i := by
  induction n with
  | zero => exact fun r _ => refuses_mismatch i
  | succ n ih =>
    intro r hr
    have hstep : c.Obeys (Grammar.step (Grammar.rules n) r) i (c.answer i r) := by
      rw [hnone r hr]
      exact h.step ih r hr
    have hrule := hstep.remembered
    rwa [hnone r hr] at hrule

/-! ## A name alone -/

/-- A text is a name, the end of its line and the end of the text. The name is no reserved word,
though it may be a word with a meaning of its own at the start of a statement. -/
structure Sole (c : Chart) (p : Phrase) : Prop where
  soft : c.Refuses (word "match") 0 ∨ ∃ t, c.Fits (word "match") 0 t 1
  mark : ∀ s, c.Refuses (mark s) 0
  word : ∀ s ∈ reservedWords, c.Refuses (word s) 0
  name : ∃ t, c.Fits nameToken 0 t 1
  phrase : c.Fits namePhrase 0 p 1
  newline : ∃ t, c.Fits (kind .newline) 1 t 2
  finish : ∃ t, c.Fits (kind .finish) 2 t 3
  bare : c.Bare 1
  bareEnd : c.Bare 2

/-- What the rules read at a name alone. -/
def soleAnswer (p : Phrase) : Rule → Option (Node × Nat)
  | .starExpressions | .starExpression | .expression | .disjunction | .conjunction | .inversion
  | .comparison | .bitOr | .bitXor | .bitAnd | .shift | .sum | .product | .factor | .power
  | .awaited | .primary | .atom | .starTargets | .starTarget | .targetWithStar | .starAtom
  | .singleTarget => some (.phrase p, 1)
  | .simpleStatement => some (.statements [.expression p.term], 1)
  | .statement | .statements => some (.statements [.expression p.term], 2)
  | .program => some (.statements [.expression p.term], 3)
  | _ => none

/-- How deeply the rules call each other that are tried at a name alone. -/
def soleDepth : Rule → Option Nat
  | .atom | .starAtom | .yielded => some 1
  | .primary | .targetBase => some 2
  | .awaited | .targetWithStar | .singleTarget => some 3
  | .power | .starTarget => some 4
  | .factor | .starTargets => some 5
  | .product => some 6
  | .sum => some 7
  | .shift => some 8
  | .bitAnd => some 9
  | .bitXor => some 10
  | .bitOr => some 11
  | .comparison => some 12
  | .inversion => some 13
  | .conjunction => some 14
  | .disjunction => some 15
  | .expression => some 16
  | .starExpression => some 17
  | .starExpressions => some 18
  | .simpleStatement => some 19
  | .statement => some 20
  | .statements => some 21
  | .program => some 22
  | _ => none

section

variable {p : Phrase} (h : c.Sole p)
include h

theorem Sole.junction {operand : Rule} (hp : c.Fits (call.phrase operand) 0 p 1) (isAnd : Bool)
    (sign : String) : c.Fits (junction call isAnd operand sign) 0 p 1 :=
  hp.bind ((h.bare.word sign).discard.bind.many.bind (fits_pure _ _))

theorem Sole.leftGrouped {operand : Rule} (hp : c.Fits (call.phrase operand) 0 p 1)
    (signs : List (String × BinaryOp)) : c.Fits (leftGrouped call operand signs) 0 p 1 :=
  hp.bind ((h.bare.signs signs).bind.many.bind (fits_pure _ _))

theorem Sole.comparison (hp : c.Fits (call.phrase .bitOr) 0 p 1) :
    c.Fits (comparison call) 0 p 1 :=
  hp.bind (h.bare.comparisonSign.bind.many.bind (fits_pure _ _))

theorem Sole.power (hp : c.Fits (call.phrase .awaited) 0 p 1) : c.Fits (power call) 0 p 1 :=
  hp.bind ((h.bare.mark _).discard.bind.attempt.bind (fits_pure _ _))

theorem Sole.primary (hgenerator : c.Refuses (call.node .generator) 1)
    (hp : c.Fits (call.phrase .atom) 0 p 1) : c.Fits (primary call) 0 p 1 :=
  hp.bind ((h.bare.trailer hgenerator).many.bind (fits_pure _ _))

theorem Sole.starTargets (hp : c.Fits (call.phrase .starTarget) 0 p 1) :
    c.Fits (starTargets call) 0 p 1 :=
  .head (hp.bind ((h.bare.mark _).notAhead.bind (fits_pure _ _)))

theorem Sole.targetBase (hp : c.Fits (call.phrase .atom) 0 p 1) :
    c.Refuses (targetBase call) 0 :=
  hp.bind_refuses h.bare.goesOn.ahead.bind

theorem Sole.expression (hp : c.Fits (call.phrase .disjunction) 0 p 1) :
    c.Fits (expression call) 0 p 1 :=
  .tail (refuses_objection _ _) <| .tail (refuses_objection _ _) <|
  .tail (hp.bind_refuses (h.bare.word _).discard.bind) hp.head

/-- The name would have to be followed by something to be matched. -/
theorem Sole.matchStatement (hcall : ∀ r, r.opens → c.Refuses (call.node r) 1) :
    c.Refuses (matchStatement call) 0 := by
  refine .cons (Refuses.bind (Refuses.discard ?_)) (.cons (refuses_objection _ _) (.nil 0))
  rcases h.soft with hsoft | ⟨t, hsoft⟩
  · exact hsoft.bind
  · exact hsoft.bind_refuses <| Refuses.bind <|
      .cons (hcall .starNamedExpression rfl).skip.bind <|
      .cons (hcall .namedExpression rfl).skip (.nil 1)

theorem Sole.assignmentStatement (hbase : c.Refuses (call.node .targetBase) 0)
    (htargets : c.Fits (call.phrase .starTargets) 0 p 1)
    (htarget : c.Fits (call.phrase .singleTarget) 0 p 1) :
    c.Refuses (assignmentStatement call) 0 := by
  obtain ⟨t, hname⟩ := h.name
  have hmark := fun s => (h.bare.mark s).discard
  refine Fits.bind_refuses (Refuses.attempt ?_)
    (Fits.bind_refuses (Refuses.attempt ?_) (refuses_objection _ _))
  · exact .cons (hname.discard.bind_refuses (hmark _).bind) <|
      .cons (Refuses.cons (h.mark _).discard.bind (.cons hbase.targetEnd.discard (.nil 0))).bind <|
      .cons (htargets.bind_refuses (hmark _).bind).many1.bind (.nil 0)
  · exact htarget.bind_refuses (h.bare.signs _).bind

theorem Sole.compoundStatement (hcall : ∀ r, r.opens → c.Refuses (call.node r) 1) :
    c.Refuses (Grammar.compoundStatement call) 0 :=
  refuses_compoundStatement (h.mark _) h.word (h.matchStatement hcall)

theorem Sole.tupleOf {item : Read Phrase} (hp : c.Fits item 0 p 1) : c.Fits (tupleOf item) 0 p 1 :=
  hp.bind ((h.bare.mark _).discard.bind.many.bind ((h.bare.mark _).attempt.bind (fits_pure _ _)))

theorem Sole.statement {ss : List Statement}
    (hcompound : c.Refuses (Grammar.compoundStatement call) 0)
    (hone : c.Fits (call.statements .simpleStatement) 0 ss 1) :
    c.Fits (statement call) 0 ss 2 := by
  obtain ⟨t, hnewline⟩ := h.newline
  have hline : c.Fits (simpleStatements call) 0 ss 2 :=
    .head (hone.bind ((h.bare.mark _).notAhead.bind (hnewline.discard.bind (fits_pure _ _))))
  exact .tail hcompound.bind hline.head

/-- What each rule reads at a name alone, given what the rules read that it calls. -/
theorem Sole.step {n d : Nat} {r : Rule}
    (h₁ : ∀ r, r.opens → c.Refuses (call.node r) 1) (h₂ : ∀ r, r.opens → c.Refuses (call.node r) 2)
    (hcall : ∀ r d, soleDepth r = some d → d ≤ n → c.Obeys (call.node r) 0 (soleAnswer p r))
    (hr : soleDepth r = some d) (hd : d ≤ n + 1) : c.Obeys (step call r) 0 (soleAnswer p r) := by
  have hphrase : ∀ r d, soleDepth r = some d → d ≤ n → soleAnswer p r = some (.phrase p, 1) →
      c.Fits (call.phrase r) 0 p 1 := by
    intro r d hr hd hread
    have hrule := hcall r d hr hd
    rw [hread] at hrule
    exact hrule.phrase
  cases r <;> cases hr
  case atom => exact h.phrase.head.bind (fits_pure _ _)
  case starAtom => exact h.phrase.head.bind (fits_pure _ _)
  case yielded => exact (h.word _ (by decide)).bind.bind
  case primary =>
    have hatom := hphrase .atom 1 rfl (by omega) rfl
    exact (h.primary (h₁ .generator rfl) hatom).bind (fits_pure _ _)
  case targetBase => exact (h.targetBase (hphrase .atom 1 rfl (by omega) rfl)).bind
  case awaited =>
    have hprimary := hphrase .primary 2 rfl (by omega) rfl
    exact (Fits.tail (h.word _ (by decide)).bind hprimary.head).bind (fits_pure _ _)
  case targetWithStar =>
    have hbase : c.Refuses (call.node .targetBase) 0 := hcall .targetBase 2 rfl (by omega)
    have hatom := hphrase .starAtom 1 rfl (by omega) rfl
    exact (Fits.tail hbase.targetEnd hatom.head).bind (fits_pure _ _)
  case singleTarget =>
    have hbase : c.Refuses (call.node .targetBase) 0 := hcall .targetBase 2 rfl (by omega)
    exact (Fits.tail hbase.targetEnd h.phrase.head).bind (fits_pure _ _)
  case power => exact (h.power (hphrase .awaited 3 rfl (by omega) rfl)).bind (fits_pure _ _)
  case starTarget =>
    have htarget := hphrase .targetWithStar 3 rfl (by omega) rfl
    exact (Fits.tail ((h.mark _).starred _) htarget.head).bind (fits_pure _ _)
  case factor =>
    have hpower := hphrase .power 4 rfl (by omega) rfl
    exact (Fits.tail (h.mark _).bind <| .tail (h.mark _).bind <| .tail (h.mark _).bind
      hpower.head).bind (fits_pure _ _)
  case starTargets =>
    exact (h.starTargets (hphrase .starTarget 4 rfl (by omega) rfl)).bind (fits_pure _ _)
  case product => exact (h.leftGrouped (hphrase .factor 5 rfl (by omega) rfl) _).bind (fits_pure _ _)
  case sum => exact (h.leftGrouped (hphrase .product 6 rfl (by omega) rfl) _).bind (fits_pure _ _)
  case shift => exact (h.leftGrouped (hphrase .sum 7 rfl (by omega) rfl) _).bind (fits_pure _ _)
  case bitAnd => exact (h.leftGrouped (hphrase .shift 8 rfl (by omega) rfl) _).bind (fits_pure _ _)
  case bitXor => exact (h.leftGrouped (hphrase .bitAnd 9 rfl (by omega) rfl) _).bind (fits_pure _ _)
  case bitOr => exact (h.leftGrouped (hphrase .bitXor 10 rfl (by omega) rfl) _).bind (fits_pure _ _)
  case comparison =>
    exact (h.comparison (hphrase .bitOr 11 rfl (by omega) rfl)).bind (fits_pure _ _)
  case inversion =>
    have hcomparison := hphrase .comparison 12 rfl (by omega) rfl
    exact (Fits.tail (h.word _ (by decide)).bind hcomparison.head).bind (fits_pure _ _)
  case conjunction =>
    exact (h.junction (hphrase .inversion 13 rfl (by omega) rfl) _ _).bind (fits_pure _ _)
  case disjunction =>
    exact (h.junction (hphrase .conjunction 14 rfl (by omega) rfl) _ _).bind (fits_pure _ _)
  case expression =>
    exact (h.expression (hphrase .disjunction 15 rfl (by omega) rfl)).bind (fits_pure _ _)
  case starExpression =>
    have hexpression := hphrase .expression 16 rfl (by omega) rfl
    exact (Fits.tail ((h.mark _).starred _) hexpression.head).bind (fits_pure _ _)
  case starExpressions =>
    exact (h.tupleOf (hphrase .starExpression 17 rfl (by omega) rfl)).bind (fits_pure _ _)
  case simpleStatement =>
    have hassign := h.assignmentStatement (hcall .targetBase 2 rfl (by omega))
      (hphrase .starTargets 5 rfl (by omega) rfl) (hphrase .singleTarget 3 rfl (by omega) rfl)
    have hexpressions := hphrase .starExpressions 18 rfl (by omega) rfl
    have hone : c.Fits (simpleStatement call) 0 (.expression p.term) 1 :=
      .tail hassign (.head (hexpressions.bind (fits_pure _ _)))
    exact hone.bind (fits_pure _ _)
  case statement =>
    have hone : c.Fits (call.statements .simpleStatement) 0 _ 1 :=
      Fits.statements (hcall .simpleStatement 19 rfl (by omega))
    exact (h.statement (h.compoundStatement h₁) hone).bind (fits_pure _ _)
  case statements =>
    have hone : c.Fits (call.statements .statement) 0 _ 2 :=
      Fits.statements (hcall .statement 20 rfl (by omega))
    exact (hone.many1 (h₂ .statement rfl).statements).bind (fits_pure _ _)
  case program =>
    have hall : c.Fits (call.statements .statements) 0 _ 2 :=
      Fits.statements (hcall .statements 21 rfl (by omega))
    obtain ⟨t, hfinish⟩ := h.finish
    exact hall.attempt.bind (hfinish.discard.bind (fits_pure _ _))

/-- A name alone is read as the expression that it is. -/
theorem Sole.rules (hanswer : c.answer 0 = soleAnswer p)
    (hnone : ∀ i r, r.opens → c.answer (i + 1) r = none) (n : Nat) :
    ∀ r d, soleDepth r = some d → d ≤ n → c.Obeys ((rules n).node r) 0 (soleAnswer p r) := by
  induction n with
  | zero =>
    intro r d hr hd
    cases r <;> cases hr <;> cases hd
  | succ n ih =>
    intro r d hr hd
    have hstep := h.step (h.bare.rules (hnone 0) n) (h.bareEnd.rules (hnone 1) n) ih hr hd
    rw [← hanswer] at hstep ⊢
    exact hstep.remembered

end

/-! ## The text of a name -/

/-- What is read at the tokens of a name. -/
def ofName (s : List Char) (readField : Nat → List Char → Except GrammarFault Term) (p : Phrase) :
    Chart where
  tokens := nameTokens s
  readField
  answer
    | 0 => soleAnswer p
    | _ + 1 => fun _ => none

/-- The term that a name is. -/
def nameTerm (s : List Char) : Term := .name (String.ofList (Text.normalForm s))

theorem nameOf_ofList (s : List Char) (line depth : Nat) :
    nameOf ⟨.name, String.ofList s, line, depth⟩ = String.ofList (Text.normalForm s) := by
  rw [nameOf, String.toList_ofList]
  split
  · rfl
  · next h =>
    have hall : s.all (·.toNat < 128) = true := by
      simp only [List.any_eq_true, decide_eq_true_eq, not_exists, not_and] at h
      exact List.all_eq_true.mpr fun c hc => by simpa using h c hc
    rw [Text.normalForm, if_pos hall]

/-- The tokens of a name that is no reserved word are a name alone. -/
theorem sole_of_nameTokens {s : List Char} (htokens : c.tokens = nameTokens s)
    (hs : String.ofList s ∉ reservedWords) : c.Sole (.leaf 1 (nameTerm s)) := by
  have hname : c.tokens.items[0]? = some ⟨.name, String.ofList s, 1, 0⟩ := by rw [htokens]; rfl
  have hnewline : c.tokens.items[1]? = some ⟨.newline, "", 1, 0⟩ := by rw [htokens]; rfl
  have hfinish : c.tokens.items[2]? = some ⟨.finish, "", 1, 0⟩ := by rw [htokens]; rfl
  have hfits : c.Fits nameToken 0 _ 1 := fits_tokenWhere hname (by simpa using hs)
  refine ⟨?_, fun w => refuses_tokenWhere hname rfl, fun w hw => refuses_tokenWhere hname ?_,
    ⟨_, hfits⟩, ?_, ⟨_, fits_tokenWhere hnewline rfl⟩, ⟨_, fits_tokenWhere hfinish rfl⟩,
    bare_of_token hnewline (.inl rfl), bare_of_token hfinish (.inr rfl)⟩
  · by_cases hmatch : String.ofList s = "match"
    · exact .inr ⟨_, fits_tokenWhere hname (by simpa using hmatch)⟩
    · exact .inl (refuses_tokenWhere hname (by simpa using hmatch))
  · have hne : String.ofList s ≠ w := fun h => hs (h ▸ hw)
    simpa using hne
  · rw [nameTerm, ← nameOf_ofList s 1 0]
    exact hfits.bind (fits_pure _ _)

end Chart

/-- Tokens are read by a rule exactly when it fits without objections. -/
theorem readTokens_eq_ok_iff {ts : Tokens} {inField : Bool}
    {readField : Nat → List Char → Except GrammarFault Term} {r : Rule} {n : Node} :
    readTokens ts inField readField r = .ok n ↔
      ∃ s, (rules (depthFor ts.items.size)).node r ⟨ts, false, inField, readField⟩ {} = .ok n s := by
  unfold readTokens
  dsimp only
  split
  · next n' s h =>
    constructor
    · rintro ⟨⟩
      exact ⟨s, h⟩
    · rintro ⟨s', h'⟩
      rw [h] at h'
      cases h'
      rfl
  · next h => simp [h]
  · next h => simp [h]
  · next h =>
    -- Reading once more only tells what is wrong.
    refine ⟨fun hok => ?_, fun ⟨s, hs⟩ => by cases h.symm.trans hs⟩
    split at hok
    · cases hok
    · cases hok
    · split at hok <;> cases hok
    · split at hok <;> cases hok

end Stencil.Expr.Grammar

namespace Stencil.Expr

open Grammar

/-- **A name alone is read as that name**, in its normal form. -/
theorem readProgram_eq_name {s : List Char} (hs : Text.isIdentifier s)
    (hword : String.ofList s ∉ reservedWords) :
    readProgram s = .ok [.expression (Chart.nameTerm s)] := by
  have hsole := Chart.sole_of_nameTokens
    (c := .ofName s (readField s.length) (.leaf 1 (Chart.nameTerm s))) rfl hword
  obtain ⟨t, hrun, -⟩ := hsole.rules rfl (fun _ _ _ => rfl) (depthFor 3) .program 22 rfl
    (by decide) {} rfl Chart.sound_empty
  have htokens : readTokens (nameTokens s) false (readField s.length) .program =
      .ok (.statements [.expression (Chart.nameTerm s)]) := readTokens_eq_ok_iff.mpr ⟨t, hrun⟩
  rw [readProgram, ofText_eq_nameTokens hs, htokens]
  rfl

end Stencil.Expr
