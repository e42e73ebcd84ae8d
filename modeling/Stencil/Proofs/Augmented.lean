import Stencil.Proofs.Reasons
import Stencil.Proofs.Telling
/-!
# Stencil.Proofs.Augmented -- augmented assignments

An augmented assignment abbreviates the assignment of a binary term to the name that is its left
operand. It is not executed as that: the name is looked up in the layers by itself, the operator is
applied outside of any term, and whatever fails is told where it fails. But a name that is bound has
its value without any effect, so it makes no difference that it is looked up by itself; failures can
be told part by part; and an operator that terms do not have is refused in both, each in its own way.

Each of the two fails with its own text, so what they do is compared up to what failures show. A key
that is missed and has no text is told by neither: then both fail with what stands in the way of
showing it. Nor is it told of a text that it exhausts its reader, and one of the two may do so without
the other.
-/

namespace Stencil.Expr

open Stencil.Text

variable {α β : Type} {b : Bindings} {text text' name : String} {op : BinaryOp} {t : Term}
  {old : Value} {m m' : Machine} {g : Failure}

/-! ## Failures that are told -/

/-- Actions in accord miss the same keys. -/
theorem Accord.unshown_iff {a a' : Act α} (h : Accord a a') : Unshown a m g ↔ Unshown a' m g := by
  have hm := h m
  unfold Unshown
  generalize a m = r, a' m = r' at hm
  cases hm with
  | ok v m' => exact .rfl
  | error hcause m' =>
    cases hcause with
    | same f => exact .rfl
    | refused shown shown' =>
      constructor <;>
      · rintro ⟨k, m₁, m₂, hmissed, -⟩
        cases hmissed

theorem accord_computeTerm (b : Bindings) (text text' : String) (t : Term) :
    Accord (computeTerm b text t) (computeTerm b text' t) :=
  .after restart fun _ => accord_evalTerm b text text' [] t

/-! ## How the two end -/

/-- Two executions end as one: with the same value in the same state, or each with a failure of its
own text, or both with the same failure that leaks; where they fail, in states that are related. -/
inductive EndAsOne {σ : Type} (text text' : String) (leaks : Failure → Prop)
    (related : σ → σ → Prop) :
    EStateM.Result Failure σ α → EStateM.Result Failure σ α → Prop
  | ok (v : α) (s : σ) : EndAsOne text text' leaks related (.ok v s) (.ok v s)
  | error (reason reason' : String) {s s' : σ} (h : related s s') :
    EndAsOne text text' leaks related (.error (.expression text reason) s)
      (.error (.expression text' reason') s')
  | leaked {g : Failure} {s s' : σ} (hg : leaks g) (h : related s s') :
    EndAsOne text text' leaks related (.error g s) (.error g s')

/-- Two machines are the same, but for the steps that have been counted since evaluation began. -/
def Machine.SameButSteps (m m' : Machine) : Prop := { m with steps := 0 } = { m' with steps := 0 }

/-- Actions in accord end as one when their failures are told, and so does what cannot fail behind
them. -/
theorem EndAsOne.of_accord {a a' : Act α} (h : Accord a a') (k : α → β) (m : Machine) :
    EndAsOne text text' (Unshown a' m) Machine.SameButSteps
      ((asFailureOf text a >>= fun v => pure (k v)) m)
      ((asFailureOf text' a' >>= fun v => pure (k v)) m) := by
  have hm := h m
  generalize hrun : a m = r, hrun' : a' m = r' at hm
  cases hm with
  | ok v m' =>
    rw [bind_of_ok (asFailureOf_of_ok hrun), bind_of_ok (asFailureOf_of_ok hrun')]
    exact .ok (k v) m'
  | error hcause m' =>
    cases hcause with
    | same =>
      cases hreason : reasonOf _ m' with
      | ok reason m₁ =>
        rw [bind_of_error (asFailureOf_of_reason hrun hreason),
          bind_of_error (asFailureOf_of_reason hrun' hreason)]
        exact .error reason reason rfl
      | error g m₁ =>
        rw [bind_of_error (asFailureOf_of_no_reason hrun hreason),
          bind_of_error (asFailureOf_of_no_reason hrun' hreason)]
        exact .leaked (unshown_of_reasonOf hrun' hreason) rfl
    | refused shown shown' =>
      rw [bind_of_error (asFailureOf_of_reason hrun (reasonOf_eq_describe nofun)),
        bind_of_error (asFailureOf_of_reason hrun' (reasonOf_eq_describe nofun))]
      exact .error _ _ rfl

/-- Layers that are put in their place in the end are left as they were by what fails. -/
theorem EndAsOne.stored {leaks : Failure → Prop}
    {r r' : EStateM.Result Failure Machine (Value × Layer)}
    (h : EndAsOne text text' leaks Machine.SameButSteps r r') :
    EndAsOne text text' leaks
      (fun w w' => w.bindings = b ∧ w'.bindings = b ∧ w.machine.SameButSteps w'.machine)
      (stored b r) (stored b r') := by
  cases h with
  | ok r m => exact .ok r.1 _
  | error reason reason' h => exact .error reason reason' ⟨rfl, rfl, h⟩
  | leaked hg h => exact .leaked hg ⟨rfl, rfl, h⟩

/-! ## The two statements -/

theorem executeStatement_assign (b : Bindings) (text name : String) (t : Term) :
    executeStatement b text (.assign [.name name] t) =
      asFailureOf text (computeTerm b text t) >>= fun v => pure (v, b.inner.put name v) := rfl

/-- A bound name that is the left operand can be looked up beforehand. -/
theorem computeTerm_binary (hold : b.get? name = some old) (hop : op ≠ .matMul) :
    computeTerm b text (.binary op (.name name) t) =
      computeTerm b text t >>= applyBinary op old := by
  have hname : nameValue ⟨b, text⟩ [] name = pure old := by
    simp only [nameValue, Bindings.lookIn, hold]
  have hterm : evalTerm ⟨b, text⟩ [] (.binary op (.name name) t) =
      evalTerm ⟨b, text⟩ [] t >>= applyBinary op old := by
    have hsign : ¬(op == .matMul) = true := by simpa using hop
    simp only [evalTerm]
    rw [if_neg hsign, hname, pure_bind]
  rw [computeTerm, computeTerm, hterm, bind_assoc]

/-- An operator that terms do not have is refused before the name is looked up. -/
theorem augment_matMul (b : Bindings) (text name : String) (t : Term) (m : Machine) :
    executeStatement b text (.augment (.name name) .matMul t) m =
      .error (.expression text "unsupported operator: MatMult") m := rfl

/-- A term with an operator that terms do not have is refused before its operands are evaluated. -/
theorem computeTerm_matMul (b : Bindings) (text : String) (t u : Term) (m : Machine) :
    ∃ shown, computeTerm b text (.binary .matMul t u) m =
      .error (.fault .refusal shown) { m with steps := 0 } := by
  have hrestart : restart m = .ok () { m with steps := 0 } := rfl
  refine ⟨"Operator '@' does not exist in expression '" ++ text ++ "'", ?_⟩
  rw [computeTerm, bind_of_ok hrestart]
  simp only [evalTerm]
  rfl

/-- Unless terms do not have the operator, both statements compute the same and tell it alike. -/
theorem augment_endAsOne (hold : b.get? name = some old) (m : Machine) :
    EndAsOne text text' (Unshown (computeTerm b text' (.binary op (.name name) t)) m)
      Machine.SameButSteps (executeStatement b text (.augment (.name name) op t) m)
      (executeStatement b text' (.assign [.name name] (.binary op (.name name) t)) m) := by
  by_cases hop : op = .matMul
  · obtain ⟨shown, hcompute⟩ := computeTerm_matMul b text' (.name name) t m
    rw [hop, augment_matMul, executeStatement_assign,
      bind_of_error (asFailureOf_of_reason hcompute (reasonOf_eq_describe nofun))]
    exact .error _ _ rfl
  · rw [executeStatement_augment hop hold, executeStatement_assign, computeTerm_binary hold hop]
    exact .of_accord ((accord_computeTerm b text text' t).andThen _) _ m

/-- What leaks from either statement is what cannot be shown of what the assignment computes. -/
theorem leaks_augment_iff (hold : b.get? name = some old) :
    Leaks text (executeStatement b text (.augment (.name name) op t)) m g ↔
      Unshown (computeTerm b text' (.binary op (.name name) t)) m g := by
  by_cases hop : op = .matMul
  · subst hop
    refine iff_of_false (FailsOf.refusal _).not_leaks ?_
    rintro ⟨k, m₁, m₂, hmissed, -⟩
    obtain ⟨shown, hcompute⟩ := computeTerm_matMul b text' (.name name) t m
    cases hcompute.symm.trans hmissed
  · rw [executeStatement_augment hop hold, leaks_bind_pure_iff, leaks_asFailureOf_iff,
      computeTerm_binary hold hop]
    exact ((accord_computeTerm b text text' t).andThen _).unshown_iff

theorem leaks_assign_iff :
    Leaks text (executeStatement b text (.assign [.name name] t)) m g ↔
      Unshown (computeTerm b text t) m g := by
  rw [executeStatement_assign, leaks_bind_pure_iff, leaks_asFailureOf_iff]

/-! ## Reading them -/

section Reading

variable {w : Limits} {p : Statement}

/-- A text that is read as a statement is executed as that. -/
theorem execute_of_reads (hw : w (trimString text) = none) (h : ReadsAs text p) (m : Machine) :
    (Evaluator.standardWithin w).execute b text m = executeStatement b text p m :=
  bind_of_ok (readWithin_eq_ok_iff.mpr ⟨rfl, hw, h⟩)

/-- What leaks is what exhausts the reader, or else what leaks from the statement. -/
theorem leaks_execute_iff (h : ReadsAs text p) :
    Leaks text ((Evaluator.standardWithin w).execute b text) m g ↔
      Exhausts w text g ∨
        w (trimString text) = none ∧ Leaks text (executeStatement b text p) m g := by
  have hclean : '\x00' ∉ text.toList := by
    intro hnull
    cases (readStatement_of_null hnull m).symm.trans (h m)
  have hreading : Leaks text (readWithin w (trimString text) (readStatement text)) m g ↔
      Exhausts w text g := by
    rw [leaks_readWithin_iff, and_iff_right hclean]
    exact or_iff_right fun hnull => hclean hnull.1
  show Leaks text (readWithin w (trimString text) (readStatement text) >>= executeStatement b text)
    m g ↔ _
  rw [leaks_bind_iff, hreading]
  refine or_congr_right ⟨?_, fun ⟨hw, hleaks⟩ => ?_⟩
  · rintro ⟨p', m₁, hread, hleaks⟩
    obtain ⟨rfl, hw, hread⟩ := readWithin_eq_ok_iff.mp hread
    cases (hread m₁).symm.trans (h m₁)
    exact ⟨hw, hleaks⟩
  · exact ⟨p, m, readWithin_eq_ok_iff.mpr ⟨rfl, hw, h⟩, hleaks⟩

end Reading

/-- **An augmented assignment does what the assignment does that it abbreviates.** Take two texts,
one read as the augmented assignment of a name by an operator and an operand, the other as the
assignment to that name of the binary term of the name and the operand, by a reader that neither
exhausts. Where the name is bound in some layer, both end with the same value, the same layers and
the same machine, or both fail, leaving all layers as they were. They fail with their own texts,
unless a key is missed in computing the binary term that has no text: then, and only then, both fail
with what stands in the way of showing it. A text that exhausts its reader fails with that, and also
leaves all layers as they were. -/
theorem augmented_as_assigned (hbound : ∃ l ∈ b.layers, (l.get? name).isSome)
    (haugment : ReadsAs text (.augment (.name name) op t))
    (hassign : ReadsAs text' (.assign [.name name] (.binary op (.name name) t))) (w : Limits)
    (m : Machine) :
    (w (trimString text) = none → w (trimString text') = none →
      EndAsOne text text' (Unshown (computeTerm b text' (.binary op (.name name) t)) m)
          Machine.SameButSteps ((Evaluator.standardWithin w).execute b text m)
          ((Evaluator.standardWithin w).execute b text' m) ∧
        EndAsOne text text' (Unshown (computeTerm b text' (.binary op (.name name) t)) m)
          (fun s s' => s.bindings = b ∧ s'.bindings = b ∧ s.machine.SameButSteps s'.machine)
          (executeInPlaceWithin w text ⟨b, m⟩) (executeInPlaceWithin w text' ⟨b, m⟩)) ∧
      (∀ g,
        (Leaks text ((Evaluator.standardWithin w).execute b text) m g ↔
          Exhausts w text g ∨ w (trimString text) = none ∧
            Unshown (computeTerm b text' (.binary op (.name name) t)) m g) ∧
        (Leaks text' ((Evaluator.standardWithin w).execute b text') m g ↔
          Exhausts w text' g ∨ w (trimString text') = none ∧
            Unshown (computeTerm b text' (.binary op (.name name) t)) m g)) ∧
      ∀ g s,
        (executeInPlaceWithin w text ⟨b, m⟩ = .error g s → s.bindings = b) ∧
        (executeInPlaceWithin w text' ⟨b, m⟩ = .error g s → s.bindings = b) := by
  obtain ⟨old, hold⟩ := Option.isSome_iff_exists.mp (Bindings.get?_isSome_iff.mpr hbound)
  refine ⟨fun hw hw' => ?_, fun g => ⟨?_, ?_⟩, fun g s => ⟨fun h => ?_, fun h => ?_⟩⟩
  · have hexecute : EndAsOne text text'
        (Unshown (computeTerm b text' (.binary op (.name name) t)) m) Machine.SameButSteps
        ((Evaluator.standardWithin w).execute b text m)
        ((Evaluator.standardWithin w).execute b text' m) := by
      rw [execute_of_reads hw haugment, execute_of_reads hw' hassign]
      exact augment_endAsOne hold m
    refine ⟨hexecute, ?_⟩
    rw [executeInPlaceWithin_eq, executeInPlaceWithin_eq]
    exact hexecute.stored
  · exact (leaks_execute_iff haugment).trans
      (or_congr_right (and_congr_right fun _ => leaks_augment_iff hold))
  · exact (leaks_execute_iff hassign).trans
      (or_congr_right (and_congr_right fun _ => leaks_assign_iff))
  · exact bindings_of_stored ((executeInPlaceWithin_eq w text b m).symm.trans h)
  · exact bindings_of_stored ((executeInPlaceWithin_eq w text' b m).symm.trans h)

/-! ## A name in an outer layer -/

/-- A text without null characters whose program is one statement is read as that. -/
theorem readsAs_of_program {p : Statement} (hnull : '\x00' ∉ Text.trim text.toList)
    (h : readProgram (Text.trim text.toList) = .ok [p]) : ReadsAs text p := by
  intro m
  have hclean : ¬(Text.trim text.toList).contains '\x00' = true := by simpa using hnull
  show (if _ then _ else _ : Act Statement) m = _
  rw [if_neg hclean, h]
  rfl

/-- The term `y - 1`. -/
def oneBelow : Term := .binary .sub (.name "y") (.const (.int 1))

/-- The program subtracts `y - 1` from `x`, as an augmented assignment. -/
def isAugmentedDifference : Except GrammarFault (List Statement) → Bool
  | .ok [.augment (.name x) .sub (.binary .sub (.name y) (.const (.int i)))] =>
    x == "x" && y == "y" && i == 1
  | _ => false

/-- The program subtracts `y - 1` from `x`, as an assignment. -/
def isAssignedDifference : Except GrammarFault (List Statement) → Bool
  | .ok [.assign [.name x] (.binary .sub (.name x') (.binary .sub (.name y) (.const (.int i))))] =>
    x == "x" && x' == "x" && y == "y" && i == 1
  | _ => false

theorem readsAs_augmentedDifference :
    ReadsAs "x -= y - 1" (.augment (.name "x") .sub oneBelow) := by
  have h : isAugmentedDifference (readProgram (Text.trim "x -= y - 1".toList)) = true := by
    decide +kernel
  refine readsAs_of_program (by decide +kernel) ?_
  unfold isAugmentedDifference at h
  split at h
  · next x y i hread =>
    simp only [Bool.and_eq_true, beq_iff_eq] at h
    obtain ⟨⟨rfl, rfl⟩, rfl⟩ := h
    exact hread
  · cases h

theorem readsAs_assignedDifference : ReadsAs "x = x - (y - 1)"
    (.assign [.name "x"] (.binary .sub (.name "x") oneBelow)) := by
  have h : isAssignedDifference (readProgram (Text.trim "x = x - (y - 1)".toList)) = true := by
    decide +kernel
  refine readsAs_of_program (by decide +kernel) ?_
  unfold isAssignedDifference at h
  split at h
  · next x x' y i hread =>
    simp only [Bool.and_eq_true, beq_iff_eq] at h
    obtain ⟨⟨⟨rfl, rfl⟩, rfl⟩, rfl⟩ := h
    exact hread
  · cases h

/-- A block binds `y`, and `x` is bound outside of it. -/
def inBlock : Bindings := ⟨[("y", .int 3)], [[("x", .int 7)]]⟩

/-- Both statements bind `x` to 5 in the block, and the outer `x` is left. -/
theorem augmented_as_assigned_inBlock :
    ((∃ l ∈ inBlock.layers, (l.get? "x").isSome) ∧
      ReadsAs "x -= y - 1" (.augment (.name "x") .sub oneBelow) ∧
      ReadsAs "x = x - (y - 1)" (.assign [.name "x"] (.binary .sub (.name "x") oneBelow))) ∧
    ∀ m, Evaluator.standard.execute inBlock "x -= y - 1" m =
        .ok (.int 5, [("y", .int 3), ("x", .int 5)]) { m with steps := 0 } ∧
      EndAsOne "x -= y - 1" "x = x - (y - 1)"
        (Unshown (computeTerm inBlock "x = x - (y - 1)" (.binary .sub (.name "x") oneBelow)) m)
        Machine.SameButSteps
        (Evaluator.standard.execute inBlock "x -= y - 1" m)
        (Evaluator.standard.execute inBlock "x = x - (y - 1)" m) := by
  have hbound : ∃ l ∈ inBlock.layers, (l.get? "x").isSome :=
    ⟨[("x", .int 7)], by simp [inBlock, Bindings.layers], rfl⟩
  refine ⟨⟨hbound, readsAs_augmentedDifference, readsAs_assignedDifference⟩, fun m => ⟨?_, ?_⟩⟩
  · exact execute_of_reads rfl readsAs_augmentedDifference m
  · exact ((augmented_as_assigned hbound readsAs_augmentedDifference readsAs_assignedDifference
      unlimited m).1 rfl rfl).1

end Stencil.Expr
