import Stencil.Proofs.Definitions
import Stencil.Proofs.SoleNames
import Stencil.Scope
/-!
# Stencil.Proofs.Recalling -- names as expressions

A name alone is an expression whose value is what the normal form of the name is bound to, unless
the name is a reserved word, which has no name in it at all. So a binding is found again under its
name exactly when the name is in normal form and is no reserved word. Definitions of parameters
accept other names as well; what they bind is not seen by an expression that is the name.
-/

namespace Stencil

open Stencil.Expr Stencil.Expr.Grammar

namespace Expr

/-! ## Statements without names -/

/-- A statement whose value no binding has a part in: a constant, or what is never evaluated. -/
def Statement.isBlind : Statement → Bool
  | .absent _ | .expression (.const _) | .expression (.absent _) => true
  | _ => false

theorem Statement.evalStatement_eq {p : Statement} (h : p.isBlind) (b b' : Bindings)
    (shown : String) : evalStatement ⟨b, shown⟩ p = evalStatement ⟨b', shown⟩ p := by
  cases p with
  | expression t =>
    cases t with
    | const v => simp only [evalStatement, evalTerm]
    | absent k => simp only [evalStatement, evalTerm]
    | _ => cases h
  | absent k => cases k <;> rfl
  | _ => cases h

/-- What is read of a program text without objections. -/
def firstReading (s : List Char) : Option Grammar.Node :=
  let ts := Tokens.ofText 1 s
  match (rules (depthFor ts.items.size)).node .program ⟨ts, false, false, readField s.length⟩ {} with
  | .ok n _ => some n
  | .error _ _ => none

theorem firstReading_of_readProgram {s : List Char} {ps : List Statement}
    (h : readProgram s = .ok ps) : firstReading s = some (.statements ps) := by
  unfold firstReading
  cases hread : readTokens (Tokens.ofText 1 s) false (readField s.length) .program with
  | error f =>
    rw [readProgram, hread] at h
    cases h
  | ok n =>
    obtain ⟨t, hrun⟩ := readTokens_eq_ok_iff.mp hread
    rw [readProgram, hread] at h
    dsimp only
    rw [hrun]
    cases n with
    | statements ss => exact congrArg _ (congrArg _ (Except.ok.inj h))
    | _ => cases h

/-- No name is looked up first in what has been read. -/
def readsBlind : Option Grammar.Node → Bool
  | some (.statements (p :: _)) => p.isBlind
  | _ => true

/-- There is no name in a reserved word. -/
theorem readsBlind_reserved : ∀ w ∈ reservedWords, readsBlind (firstReading w.toList) = true := by
  decide +kernel

/-! ## Evaluating a name -/

section

variable {name text : String} {m : Machine}

theorem readExpression_of_ok {p : Statement} {ps : List Statement} (hnull : '\x00' ∉ text.toList)
    (h : readProgram text.toList = .ok (p :: ps)) : readExpression text m = .ok p m := by
  have hcontains : ¬text.toList.contains '\x00' = true := by simpa using hnull
  rw [readExpression, if_neg hcontains, h]
  rfl

theorem readExpression_eq_ok {p : Statement} {m' : Machine}
    (h : readExpression text m = .ok p m') : ∃ ps, readProgram text.toList = .ok (p :: ps) := by
  rw [readExpression] at h
  split at h
  · cases h
  · split at h
    · cases h
    · cases h
    · next hread =>
      cases h
      exact ⟨_, hread⟩

/-- What is read before any name is looked up has the same value with all bindings. -/
theorem evaluateText_of_blind
    (h : ∀ p ps, readProgram (Text.trim text.toList) = .ok (p :: ps) → p.isBlind)
    (b b' : Bindings) : evaluateText b text = evaluateText b' text := by
  generalize hshown : Text.trimString text = shown
  have hrun : ∀ m, (readExpression shown >>= evalStatement ⟨b, shown⟩) m =
      (readExpression shown >>= evalStatement ⟨b', shown⟩) m := by
    intro m
    cases hread : readExpression shown m with
    | ok p m' =>
      obtain ⟨ps, hps⟩ := readExpression_eq_ok hread
      rw [← hshown, Text.trimString, String.toList_ofList] at hps
      rw [bind_of_ok hread, bind_of_ok hread, Statement.evalStatement_eq (h p ps hps) b b']
    | error f m' => rw [bind_of_error hread, bind_of_error hread]
  rw [evaluateText_eq, evaluateText_eq, hshown]
  exact congrArg (asFailureOf text) (congrArg (restart >>= fun _ => ·) (funext hrun))

theorem asFailureOf_congr {α : Type} (text : String) {a a' : Act α} {m m' : Machine}
    (h : a m = a' m') : asFailureOf text a m = asFailureOf text a' m' := by
  cases hrun : a m with
  | ok x n => rw [asFailureOf, asFailureOf, tryCatch_of_ok hrun, tryCatch_of_ok (h.symm.trans hrun)]
  | error f n =>
    rw [asFailureOf, asFailureOf, tryCatch_of_error hrun, tryCatch_of_error (h.symm.trans hrun)]

/-- The name under which a name alone is looked up. -/
def lookedUp (name : String) : String := String.ofList (Text.normalForm name.toList)

/-- A name alone has the value that its normal form has. -/
theorem evaluateText_name (hname : Text.isIdentifier name.toList)
    (htrim : Text.trim name.toList = name.toList) (hword : name ∉ reservedWords) (b : Bindings)
    (m : Machine) :
    evaluateText b name m =
      asFailureOf name (nameValue ⟨b, name⟩ [] (lookedUp name)) { m with steps := 0 } := by
  have hread : readProgram name.toList = .ok [.expression (.name (lookedUp name))] :=
    readProgram_eq_name hname (by rwa [String.ofList_toList])
  have hshown : Text.trimString name = name := by
    rw [Text.trimString, htrim, String.ofList_toList]
  have hnull : '\x00' ∉ name.toList := fun h =>
    absurd (mayBeName_of_mem hname _ h) (by decide)
  have hrun : (do
      restart
      evalStatement ⟨b, name⟩ (← readExpression name) : Act Value) m =
        nameValue ⟨b, name⟩ [] (lookedUp name) { m with steps := 0 } := by
    rw [bind_of_ok (show restart m = .ok () { m with steps := 0 } from rfl),
      bind_of_ok (readExpression_of_ok hnull hread)]
    simp only [evalStatement, evalTerm]
  rw [evaluateText_eq, hshown]
  exact asFailureOf_congr name hrun

end

/-! ## Names that are found again -/

/-- A name in normal form that is no reserved word. -/
def IsPlain (name : String) : Prop := name ∉ reservedWords ∧ lookedUp name = name

/-- A name is found again: in every scope the expression that is the name has the value that the
name is bound to. -/
def Recalled (name : String) : Prop :=
  ∀ (s : Scope) (v : Value) (m : Machine), s.bindings.get? name = some v →
    s.evaluate .standard name m = .ok v { m with steps := 0 }

/-- A name is lost: binding it changes nothing for the expression that is the name. -/
def Lost (name : String) : Prop :=
  ∀ (s : Scope) (v : Value) (m : Machine),
    (s.bind name v).evaluate .standard name m = s.evaluate .standard name m

theorem Bindings.get?_put_of_ne {b : Bindings} {name other : String} (h : other ≠ name) (v : Value) :
    (b.put name v).get? other = b.get? other := by
  have hinner : (b.inner.put name v).get? other = b.inner.get? other := by
    rw [Layer.get?_put, if_neg h]
  show Bindings.lookIn (b.inner.put name v :: b.outer) other =
    Bindings.lookIn (b.inner :: b.outer) other
  rw [Bindings.lookIn, Bindings.lookIn, hinner]

section

variable {name : String} (hname : Text.isIdentifier name.toList)
  (htrim : Text.trim name.toList = name.toList)
include hname htrim

theorem recalled_of_isPlain (h : IsPlain name) : Recalled name := by
  intro s v m hv
  have hvalue : nameValue ⟨s.bindings, name⟩ [] (lookedUp name) { m with steps := 0 } =
      .ok v { m with steps := 0 } := by
    simp only [nameValue, Bindings.lookIn, h.2, hv]
    rfl
  show evaluateText s.bindings name m = _
  rw [evaluateText_name hname htrim h.1]
  exact tryCatch_of_ok hvalue

theorem lost_of_not_isPlain (h : ¬IsPlain name) : Lost name := by
  intro s v m
  show evaluateText (s.bindings.put name v) name m = evaluateText s.bindings name m
  by_cases hword : name ∈ reservedWords
  · rw [evaluateText_of_blind fun p ps hps => ?_]
    rw [htrim] at hps
    have hblind := readsBlind_reserved name hword
    rwa [firstReading_of_readProgram hps] at hblind
  · have hne : lookedUp name ≠ name := fun heq => h ⟨hword, heq⟩
    rw [evaluateText_name hname htrim hword, evaluateText_name hname htrim hword, nameValue,
      nameValue, Bindings.get?_put_of_ne hne]

end

end Expr

namespace Parameter

variable {d name : String} {v : Value} {m m' : Machine}

theorem isIdentifier_of_named {s : List Char} {w : Value} {n : Machine}
    (h : named d s w n = .ok (name, v) m') : Text.isIdentifier s ∧ s = name.toList := by
  rw [named] at h
  split at h
  · next hs =>
    cases h
    exact ⟨hs, String.toList_ofList.symm⟩
  · cases h

/-- The name of a definition that is accepted is an identifier without blanks around it. -/
theorem isIdentifier_of_parse {e : Evaluator} (h : parse e d m = .ok (name, v) m') :
    Text.isIdentifier name.toList ∧ Text.trim name.toList = name.toList := by
  generalize hr : EStateM.Result.ok (name, v) m' = r at h
  cases parse_eq_iff.mp h with
  | alone =>
    obtain ⟨hs, heq⟩ := isIdentifier_of_named hr.symm
    exact heq ▸ ⟨hs, trim_trim _⟩
  | bound =>
    obtain ⟨hs, heq⟩ := isIdentifier_of_named hr.symm
    exact heq ▸ ⟨hs, trim_trim _⟩
  | failed => cases hr
  | passed => cases hr

/-- **What an accepted name is good for.** However a definition is written that is accepted, the
value of the name can be had by the name when the name is in normal form and no reserved word.
Otherwise the binding is never seen. -/
theorem parse_recalled (h : parse .standard d m = .ok (name, v) m') :
    (IsPlain name → Recalled name) ∧ (¬IsPlain name → Lost name) :=
  have hname := isIdentifier_of_parse h
  ⟨recalled_of_isPlain hname.1 hname.2, lost_of_not_isPlain hname.1 hname.2⟩

/-- A name alone is accepted as a definition. -/
theorem parse_of_isAlone (e : Evaluator) (h : IsAlone name.toList)
    (hname : Text.isIdentifier name.toList) (htrim : Text.trim name.toList = name.toList) :
    parse e name m = .ok (name, .bool true) m := by
  rw [(Gives.alone h).parse_eq, htrim, named, if_pos hname, String.ofList_toList]

/-- A name that is found again, and one that is lost because it is a reserved word. -/
theorem parse_recalled_class :
    (parse .standard "x" {} = .ok ("x", .bool true) {} ∧ Recalled "x") ∧
      parse .standard "class" {} = .ok ("class", .bool true) {} ∧ Lost "class" := by
  have hx : parse .standard "x" {} = .ok ("x", .bool true) {} :=
    parse_of_isAlone _ (.inl (by decide)) (by decide) (by decide +kernel)
  have hclass : parse .standard "class" {} = .ok ("class", .bool true) {} :=
    parse_of_isAlone _ (.inl (by decide)) (by decide) (by decide +kernel)
  have hplain : IsPlain "x" := ⟨by decide, by decide +kernel⟩
  have hreserved : ¬IsPlain "class" := fun h => h.1 (by decide)
  exact ⟨⟨hx, (parse_recalled hx).1 hplain⟩, hclass, (parse_recalled hclass).2 hreserved⟩

end Parameter

end Stencil
