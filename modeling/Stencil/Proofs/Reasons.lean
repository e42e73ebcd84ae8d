import Stencil.Proofs.Blanks
import Stencil.Proofs.Showing
import Stencil.Proofs.Storing
/-!
# Stencil.Proofs.Reasons -- how the standard evaluator fails

Whoever asks the standard evaluator shows the text that failed and, behind it, the reason. A failure
of any other kind would have to be told apart first, so whatever goes wrong in reading a text or in
computing its value is told as a failure of that text. Two places are left out. The reason is made
where the failure is told, and of a key that was missed it is the text of the key: where the key has
none, what stands in its way is told instead. And a statement text is read before anything is told of
it, so that a null character in it, or a reader that it exhausts, is told as it is.
-/

namespace Stencil.Expr

open Stencil.Text

variable {α β : Type} {text : String} {a : Act α} {b : Bindings} {f g : Failure} {m m' : Machine}

/-! ## Failures of a text -/

/-- An action that ends with a value, or with a failure of the text. -/
def FailsOf (text : String) (a : Act α) : Prop :=
  ∀ m, (∃ v m', a m = .ok v m') ∨ ∃ reason m', a m = .error (.expression text reason) m'

namespace FailsOf

theorem pure (v : α) : FailsOf text (pure v) := fun m => .inl ⟨v, m, rfl⟩

theorem refusal (reason : String) : FailsOf text (throw (.expression text reason) : Act α) :=
  fun m => .inr ⟨reason, m, rfl⟩

theorem bind {k : α → Act β} (ha : FailsOf text a) (hk : ∀ v, FailsOf text (k v)) :
    FailsOf text (a >>= k) := by
  intro m
  rcases ha m with ⟨v, m', h⟩ | ⟨reason, m', h⟩
  · rw [bind_of_ok h]
    exact hk v m'
  · exact .inr ⟨reason, m', bind_of_error h⟩

theorem mapM {k : α → Act β} (hk : ∀ v, FailsOf text (k v)) (vs : List α) :
    FailsOf text (vs.mapM k) := by
  induction vs with
  | nil => exact pure []
  | cons v vs ih =>
    rw [List.mapM_cons]
    exact (hk v).bind fun _ => ih.bind fun _ => pure _

theorem targetName (target : Term) : FailsOf text (targetName text target) := by
  cases target with
  | name id => exact pure id
  | _ => exact refusal _

end FailsOf

/-- A failure leaves an action that is none of the text. -/
def Leaks (text : String) (a : Act α) (m : Machine) (g : Failure) : Prop :=
  (∃ m', a m = .error g m') ∧ ∀ reason, g ≠ .expression text reason

theorem FailsOf.not_leaks (h : FailsOf text a) : ¬Leaks text a m g := by
  rintro ⟨⟨m', hrun⟩, hother⟩
  rcases h m with ⟨v, m₁, h⟩ | ⟨reason, m₁, h⟩
  · cases h.symm.trans hrun
  · cases h.symm.trans hrun
    exact hother reason rfl

theorem leaks_bind_iff {k : α → Act β} :
    Leaks text (a >>= k) m g ↔
      Leaks text a m g ∨ ∃ v m₁, a m = .ok v m₁ ∧ Leaks text (k v) m₁ g := by
  simp only [Leaks, bind_eq_error_iff]
  constructor
  · rintro ⟨⟨m', h | ⟨v, m₁, hv, h⟩⟩, hother⟩
    · exact .inl ⟨⟨m', h⟩, hother⟩
    · exact .inr ⟨v, m₁, hv, ⟨m', h⟩, hother⟩
  · rintro (⟨⟨m', h⟩, hother⟩ | ⟨v, m₁, hv, ⟨m', h⟩, hother⟩)
    · exact ⟨⟨m', .inl h⟩, hother⟩
    · exact ⟨⟨m', .inr ⟨v, m₁, hv, h⟩⟩, hother⟩

/-- What cannot fail lets nothing escape behind an action. -/
theorem leaks_bind_pure_iff {k : α → β} :
    Leaks text (a >>= fun v => pure (k v)) m g ↔ Leaks text a m g := by
  rw [leaks_bind_iff, or_iff_left]
  rintro ⟨v, m₁, -, h⟩
  exact (FailsOf.pure (k v)).not_leaks h

/-! ## Reasons -/

section Reasons

variable {k : Value}

theorem asFailureOf_of_ok {x : α} (h : a m = .ok x m') : asFailureOf text a m = .ok x m' :=
  tryCatch_of_ok h

theorem asFailureOf_of_error (h : a m = .error f m') :
    asFailureOf text a m = (reasonOf f >>= fun reason => throw (.expression text reason)) m' :=
  tryCatch_of_error h

theorem reasonOf_of_missed (h : m.missed = some k) :
    reasonOf (.fault .missingKey "") m = quotedValue k m := by
  unfold reasonOf
  rw [get_bind]
  simp only [h, if_true]

/-- There is always a reason, but for a key that was missed. -/
theorem reasonOf_eq_describe (h : f = .fault .missingKey "" → m.missed = none) :
    reasonOf f m = .ok f.describe m := by
  unfold reasonOf
  rw [get_bind]
  cases hk : m.missed with
  | none => rfl
  | some k =>
    have hother : f ≠ .fault .missingKey "" := fun hf => nomatch hk.symm.trans (h hf)
    simp only [if_neg hother]
    rfl

/-- An action misses a key that has no text, because of a failure in making it. -/
def Unshown (a : Act α) (m : Machine) (g : Failure) : Prop :=
  ∃ k m₁ m₂, a m = .error (.fault .missingKey "") m₁ ∧ m₁.missed = some k ∧
    quotedValue k m₁ = .error g m₂

theorem Unshown.unshowable (h : Unshown a m g) : Unshowable g := by
  obtain ⟨k, m₁, m₂, -, -, hquoted⟩ := h
  exact unshowable_quotedValue k m₁ g m₂ hquoted

/-- An integer with too many digits is a key, but it has no text. -/
theorem unshown_integer {i : Int} (h : Number.integerText i = .error f) (m : Machine) :
    Unshown (keyMissing (.int i) : Act α) m f := by
  have hquoted (m : Machine) : quotedValue (.int i) m = .error f m := by
    unfold quotedValue depthLimit showWithin
    simp only [h]
    rfl
  exact ⟨_, _, _, rfl, rfl, hquoted _⟩

example : Unshown (keyMissing (.int (10 ^ 5000)) : Act Value) m Number.tooManyDigits :=
  unshown_integer (by decide +kernel) m

theorem asFailureOf_of_reason {reason : String} {m₁ : Machine} (h : a m = .error f m')
    (hreason : reasonOf f m' = .ok reason m₁) :
    asFailureOf text a m = .error (.expression text reason) m₁ :=
  (asFailureOf_of_error h).trans (bind_of_ok hreason)

theorem asFailureOf_of_no_reason {m₁ : Machine} (h : a m = .error f m')
    (hreason : reasonOf f m' = .error g m₁) : asFailureOf text a m = .error g m₁ :=
  (asFailureOf_of_error h).trans (bind_of_error hreason)

/-- A failure has no reason only where a key has no text. -/
theorem unshown_of_reasonOf {m₁ : Machine} (h : a m = .error f m')
    (hreason : reasonOf f m' = .error g m₁) : Unshown a m g := by
  by_cases hmissed : f = .fault .missingKey "" → m'.missed = none
  · cases (reasonOf_eq_describe hmissed).symm.trans hreason
  · obtain ⟨rfl, hsome⟩ := Classical.not_imp.mp hmissed
    obtain ⟨k, hk⟩ := Option.ne_none_iff_exists'.mp hsome
    exact ⟨k, m', m₁, h, hk, (reasonOf_of_missed hk).symm.trans hreason⟩

/-- What leaves an action whose failures are told is the failure to show a key. -/
theorem leaks_asFailureOf_iff : Leaks text (asFailureOf text a) m g ↔ Unshown a m g := by
  constructor
  · rintro ⟨⟨m', hrun⟩, hother⟩
    cases h : a m with
    | ok v m₁ => cases (asFailureOf_of_ok h).symm.trans hrun
    | error f m₁ =>
      cases hreason : reasonOf f m₁ with
      | ok reason m₂ =>
        cases (asFailureOf_of_reason h hreason).symm.trans hrun
        exact absurd rfl (hother reason)
      | error g' m₂ =>
        cases (asFailureOf_of_no_reason h hreason).symm.trans hrun
        exact unshown_of_reasonOf h hreason
  · rintro ⟨k, m₁, m₂, h, hk, hquoted⟩
    have hreason := (reasonOf_of_missed hk).trans hquoted
    exact ⟨⟨m₂, asFailureOf_of_no_reason h hreason⟩,
      (unshowable_quotedValue k m₁ g m₂ hquoted).ne_expression text⟩

/-- Failures can be told part by part. -/
theorem asFailureOf_bind (text : String) (a : Act α) (k : α → Act β) :
    asFailureOf text (a >>= k) = asFailureOf text a >>= fun x => asFailureOf text (k x) := by
  funext m
  cases hrun : a m with
  | ok x m' =>
    rw [bind_of_ok (asFailureOf_of_ok hrun)]
    cases hrest : k x m' with
    | ok y m'' =>
      rw [asFailureOf_of_ok hrest]
      exact asFailureOf_of_ok ((bind_of_ok hrun).trans hrest)
    | error f m'' =>
      rw [asFailureOf_of_error hrest]
      exact asFailureOf_of_error ((bind_of_ok hrun).trans hrest)
  | error f m' =>
    have hwhole := bind_of_error (f := k) hrun
    -- Whatever the first part fails with, it is told before the second part is come to.
    cases hreason : reasonOf f m' with
    | ok reason m₁ =>
      rw [asFailureOf_of_reason hwhole hreason, bind_of_error (asFailureOf_of_reason hrun hreason)]
    | error g m₁ =>
      rw [asFailureOf_of_no_reason hwhole hreason,
        bind_of_error (asFailureOf_of_no_reason hrun hreason)]

end Reasons

/-! ## Statements -/

section Statements

variable {p : Statement}

/-- What executing a statement computes, where it is not refused beforehand. -/
inductive Statement.Computes (b : Bindings) (text : String) : Statement → Act Value → Prop
  /-- An assignment to names computes its right side. -/
  | assign {targets : List Term} {names : List String} {t : Term} (h : targets = names.map .name) :
    Computes b text (.assign targets t) (computeTerm b text t)
  /-- An augmented assignment to a name that is bound computes its operand, and applies the operator
  behind it. -/
  | augment {name : String} {op : BinaryOp} {t : Term} {old : Value} (hop : op ≠ .matMul)
    (hold : b.get? name = some old) :
    Computes b text (.augment (.name name) op t) (computeTerm b text t >>= applyBinary op old)
  /-- An expression computes its value. -/
  | expression {t : Term} : Computes b text (.expression t) (computeTerm b text t)

theorem mapM_targetName (names : List String) (m : Machine) :
    (names.map .name).mapM (targetName text) m = .ok names m := by
  induction names with
  | nil => rfl
  | cons name names ih => exact mapM_cons_of_ok rfl ih

theorem executeStatement_augment {name : String} {op : BinaryOp} {t : Term} {old : Value}
    (hop : op ≠ .matMul) (hold : b.get? name = some old) :
    executeStatement b text (.augment (.name name) op t) =
      asFailureOf text (computeTerm b text t >>= applyBinary op old) >>= fun v =>
        pure (v, b.inner.put name v) := by
  have hsign : ¬(op == .matMul) = true := by simpa using hop
  rw [asFailureOf_bind, bind_assoc]
  funext m
  show (if _ then _ else _ : Act _) m = _
  rw [if_neg hsign, hold]
  rfl

/-- A name that is not bound is no target of an augmented assignment, whatever the operator. -/
theorem FailsOf.augment_of_unbound {name : String} {op : BinaryOp} {t : Term}
    (h : b.get? name = none) : FailsOf text (executeStatement b text (.augment (.name name) op t)) := by
  show FailsOf text (if _ then _ else _)
  split
  · exact .refusal _
  · rw [h]
    exact .refusal _

/-- What leaves a statement is the failure to show a key that was missed in computing. -/
theorem leaks_executeStatement_iff :
    Leaks text (executeStatement b text p) m g ↔
      ∃ a, p.Computes b text a ∧ Unshown a m g := by
  cases p with
  | assign targets t =>
    have hrun : executeStatement b text (.assign targets t) =
        targets.mapM (targetName text) >>= fun names =>
          asFailureOf text (computeTerm b text t) >>= fun v =>
            pure (v, names.foldl (fun l n => l.put n v) b.inner) := rfl
    rw [hrun, leaks_bind_iff, or_iff_right (FailsOf.mapM FailsOf.targetName _).not_leaks]
    simp only [leaks_bind_pure_iff, leaks_asFailureOf_iff]
    constructor
    · rintro ⟨names, m₁, hnames, h⟩
      obtain rfl := mapM_targetName_eq_ok hnames
      cases (mapM_targetName names m).symm.trans hnames
      exact ⟨_, .assign rfl, h⟩
    · rintro ⟨_, ⟨rfl⟩, h⟩
      exact ⟨_, m, mapM_targetName _ m, h⟩
  | augment target op t =>
    cases target with
    | name name =>
      cases hold : b.get? name with
      | none =>
        refine iff_of_false (FailsOf.augment_of_unbound hold).not_leaks ?_
        rintro ⟨_, hcomputes, -⟩
        cases hcomputes with
        | augment _ hbound => cases hold.symm.trans hbound
      | some old =>
        by_cases hop : op = .matMul
        · subst hop
          refine iff_of_false (FailsOf.refusal _).not_leaks ?_
          rintro ⟨_, hcomputes, -⟩
          cases hcomputes with
          | augment hop _ => exact hop rfl
        · rw [executeStatement_augment hop hold, leaks_bind_pure_iff, leaks_asFailureOf_iff]
          constructor
          · exact fun h => ⟨_, .augment hop hold, h⟩
          · rintro ⟨_, hcomputes, h⟩
            cases hcomputes with
            | augment _ hbound =>
              cases hold.symm.trans hbound
              exact h
    | _ =>
      refine iff_of_false (FailsOf.refusal _).not_leaks ?_
      rintro ⟨_, ⟨⟩, -⟩
  | expression t =>
    have hrun : executeStatement b text (.expression t) =
        asFailureOf text (computeTerm b text t) >>= fun v => pure (v, b.inner) := rfl
    rw [hrun, leaks_bind_pure_iff, leaks_asFailureOf_iff]
    constructor
    · exact fun h => ⟨_, .expression, h⟩
    · rintro ⟨_, ⟨⟩, h⟩
      exact h
  | absent kind =>
    refine iff_of_false (FailsOf.refusal _).not_leaks ?_
    rintro ⟨_, ⟨⟩, -⟩

end Statements

/-! ## Reading -/

section Reading

variable {w : Limits} {p : Statement}

/-- A null character is no blank, so it is not trimmed off. -/
theorem null_mem_trim_iff :
    (trim text.toList).contains '\x00' = true ↔ '\x00' ∈ text.toList := by
  rw [List.contains_iff_mem]
  exact mem_trim_iff (by decide)

theorem null_mem_trimString_iff :
    (trimString text).toList.contains '\x00' = true ↔ '\x00' ∈ text.toList := by
  rw [trimString, String.toList_ofList]
  exact null_mem_trim_iff

/-- A statement text that can be looked at is read as one statement, or told not to be one. -/
theorem FailsOf.readStatement (h : '\x00' ∉ text.toList) : FailsOf text (readStatement text) := by
  rw [Expr.readStatement]
  show FailsOf text (if _ then _ else _)
  rw [if_neg (null_mem_trim_iff.not.mpr h)]
  cases readProgram (trim text.toList) with
  | error f => exact refusal _
  | ok statements =>
    match statements with
    | [] | _ :: _ :: _ => exact refusal _
    | [s] => exact pure s

theorem readStatement_of_null (h : '\x00' ∈ text.toList) (m : Machine) :
    readStatement text m = .error nullCharacter m := by
  show (if _ then _ else _ : Act Statement) m = _
  rw [if_pos (null_mem_trim_iff.mpr h)]
  rfl

/-- The text exhausts its reader, which fails. -/
def Exhausts (w : Limits) (text : String) (g : Failure) : Prop :=
  ∃ x, w (trimString text) = some x ∧ g = x.failure

/-! A null character is seen first, an exhausted reader then, and only then the program. -/

theorem readWithin_of_null (h : '\x00' ∈ text.toList) (m : Machine) :
    readWithin w (trimString text) (readStatement text) m = .error nullCharacter m := by
  rw [readWithin]
  cases w (trimString text) with
  | none => exact readStatement_of_null h m
  | some x =>
    dsimp only
    rw [if_pos (null_mem_trimString_iff.mpr h)]
    exact readStatement_of_null h m

theorem readWithin_of_some {x : Exhaustion} (h : '\x00' ∉ text.toList)
    (hx : w (trimString text) = some x) (m : Machine) :
    readWithin w (trimString text) (readStatement text) m = .error x.failure m := by
  rw [readWithin, hx]
  dsimp only
  rw [if_neg (null_mem_trimString_iff.not.mpr h)]
  rfl

theorem readWithin_of_none (h : w (trimString text) = none) :
    readWithin w (trimString text) (readStatement text) = readStatement text := by
  rw [readWithin, h]

theorem readWithin_eq_ok_iff :
    readWithin w (trimString text) (readStatement text) m = .ok p m' ↔
      m' = m ∧ w (trimString text) = none ∧ ReadsAs text p := by
  by_cases hnull : '\x00' ∈ text.toList
  · rw [readWithin_of_null hnull]
    refine iff_of_false nofun ?_
    rintro ⟨-, -, hread⟩
    cases (readStatement_of_null hnull m).symm.trans (hread m)
  · cases hx : w (trimString text) with
    | some x =>
      rw [readWithin_of_some hnull hx]
      exact iff_of_false nofun nofun
    | none =>
      rw [readWithin_of_none hx]
      constructor
      · intro h
        obtain ⟨hm, hread⟩ := readsAs_of_ok h
        exact ⟨hm, rfl, hread⟩
      · rintro ⟨rfl, -, hread⟩
        exact hread m'

/-- Reading tells what is wrong with a text, unless it does not come to look at it. -/
theorem leaks_readWithin_iff :
    Leaks text (readWithin w (trimString text) (readStatement text)) m g ↔
      '\x00' ∈ text.toList ∧ g = nullCharacter ∨
        '\x00' ∉ text.toList ∧ Exhausts w text g := by
  by_cases hnull : '\x00' ∈ text.toList
  · simp only [hnull, not_true_eq_false, true_and, false_and, or_false]
    constructor
    · rintro ⟨⟨m', hrun⟩, -⟩
      cases (readWithin_of_null hnull m).symm.trans hrun
      rfl
    · rintro rfl
      exact ⟨⟨m, readWithin_of_null hnull m⟩, nofun⟩
  · simp only [hnull, not_false_eq_true, true_and, false_and, false_or]
    cases hx : w (trimString text) with
    | some x =>
      constructor
      · rintro ⟨⟨m', hrun⟩, -⟩
        cases (readWithin_of_some hnull hx m).symm.trans hrun
        exact ⟨x, hx, rfl⟩
      · rintro ⟨y, hy, rfl⟩
        cases hx.symm.trans hy
        exact ⟨⟨m, readWithin_of_some hnull hx m⟩, by cases x <;> exact nofun⟩
    | none =>
      rw [readWithin_of_none hx]
      refine iff_of_false (FailsOf.readStatement hnull).not_leaks ?_
      rintro ⟨y, hy, -⟩
      cases hx.symm.trans hy

end Reading

/-! ## The standard evaluator -/

/-- What leaves the execution of a text, within limits of the reader, and is no failure of the
text. -/
inductive ExecutionLeaks (w : Limits) (b : Bindings) (text : String) (m : Machine) :
    Failure → Prop
  /-- There is a null character in the text. -/
  | null (h : '\x00' ∈ text.toList) : ExecutionLeaks w b text m nullCharacter
  /-- There is none, and the text exhausts its reader. -/
  | exhausted {x : Exhaustion} (hclean : '\x00' ∉ text.toList)
    (h : w (trimString text) = some x) : ExecutionLeaks w b text m x.failure
  /-- The text is read as a statement, and in computing this a key is missed that has no text. -/
  | unshown {p : Statement} {a : Act Value} {g : Failure} (hwithin : w (trimString text) = none)
    (hread : ReadsAs text p) (hcomputes : p.Computes b text a) (h : Unshown a m g) :
    ExecutionLeaks w b text m g

/-- **Failures of the standard evaluator are failures of the text, but for those that are not told.**
Evaluating a text ends with a value or with a failure of that text, whatever is bound and whatever the
text holds, unless a key is missed that has no text. So does executing a text, unless it holds a null
character, exhausts its reader or misses such a key. What is not told is the failure of the reader or
that of showing the key. -/
theorem standard_fails_of_text (w : Limits) (b : Bindings) (text : String) (m : Machine)
    (g : Failure) :
    (Leaks text ((Evaluator.standardWithin w).evaluate b text) m g ↔
        Unshown (computeText w b text) m g) ∧
      (Leaks text ((Evaluator.standardWithin w).execute b text) m g ↔
        ExecutionLeaks w b text m g) := by
  refine ⟨leaks_asFailureOf_iff, ?_⟩
  show Leaks text (readWithin w (trimString text) (readStatement text) >>= executeStatement b text)
    m g ↔ _
  rw [leaks_bind_iff, leaks_readWithin_iff]
  constructor
  · rintro ((⟨hnull, rfl⟩ | ⟨hclean, x, hx, rfl⟩) | ⟨p, m₁, hread, h⟩)
    · exact .null hnull
    · exact .exhausted hclean hx
    · obtain ⟨rfl, hwithin, hread⟩ := readWithin_eq_ok_iff.mp hread
      obtain ⟨a, hcomputes, h⟩ := leaks_executeStatement_iff.mp h
      exact .unshown hwithin hread hcomputes h
  · intro h
    cases h with
    | null hnull => exact .inl (.inl ⟨hnull, rfl⟩)
    | exhausted hclean hx => exact .inl (.inr ⟨hclean, _, hx, rfl⟩)
    | unshown hwithin hread hcomputes h =>
      exact .inr ⟨_, m, readWithin_eq_ok_iff.mpr ⟨rfl, hwithin, hread⟩,
        leaks_executeStatement_iff.mpr ⟨_, hcomputes, h⟩⟩

end Stencil.Expr
