import Stencil.Proofs.Reasons
import Stencil.Proofs.Stops
/-!
# Stencil.Proofs.Recording -- patterns that fail

A pattern fails when it cannot be computed, or when what it is computed to is no pattern. The line
has no part in this, and nothing is left of it: one error is recorded, and a diagnostic is shown in
the place of the line, whatever the rules before have made of it.

Both are made of the same failure, though not in the same way. What is recorded names the kind of a
failure that has no message; what is shown does not, and is then the mark of a diagnostic with
nothing behind it. So the two tell the same exactly when the failure has a message. All failures of
patterns have one that come from the standard evaluator.
-/

namespace Stencil

open Stencil.Expr

variable {e : Evaluator} {b : Bindings} {m m' : Machine} {f : Failure} {r : Rule}

/-! ## How a pattern fails -/

/-- The pattern of a rule fails: it cannot be computed, or what it is computed to is no pattern. -/
inductive Rule.PatternFails (r : Rule) (e : Evaluator) (b : Bindings) (m : Machine) (f : Failure)
    (m' : Machine) : Prop
  | uncomputed (h : e.resolve b r.pattern m = .error f m')
  | invalid {pattern : String} (hmode : r.mode = .regex)
      (hpattern : e.resolve b r.pattern m = .ok pattern m')
      (hread : Pattern.ofText pattern.toList = .error f)

/-- Only what should be read as a pattern can be none. -/
theorem MatchMode.hits_eq_error_iff {mode : MatchMode} {pattern text : List Char} :
    mode.hits pattern text = .error f ↔ mode = .regex ∧ Pattern.ofText pattern = .error f := by
  cases mode with
  | plain => simp [hits]
  | regex =>
    rw [hits]
    cases Pattern.ofText pattern with
    | error g => simp [bind, Except.bind]
    | ok p => simp [bind, Except.bind, pure, Except.pure]

/-- Looking for the matches of a rule fails exactly when its pattern does, in whatever text. -/
theorem Rule.matchesIn_eq_error_iff (text : String) :
    r.matchesIn e b text m = .error f m' ↔ r.PatternFails e b m f m' := by
  rw [matchesIn, bind_eq_error_iff]
  constructor
  · rintro (h | ⟨pattern, m₁, hpattern, hhits⟩)
    · exact .uncomputed h
    · obtain ⟨hnone, rfl⟩ := ofExcept_eq_error_iff.mp hhits
      obtain ⟨hmode, hread⟩ := MatchMode.hits_eq_error_iff.mp hnone
      exact .invalid hmode hpattern hread
  · rintro (h | ⟨hmode, hpattern, hread⟩)
    · exact .inl h
    · have hnone : r.mode.hits _ text.toList = .error f :=
        MatchMode.hits_eq_error_iff.mpr ⟨hmode, hread⟩
      exact .inr ⟨_, m', hpattern, ofExcept_eq_error_iff.mpr ⟨hnone, rfl⟩⟩

/-! ## How it is told -/

theorem Failure.messageOrKind_of_message (h : f.message ≠ "") : f.messageOrKind = f.message := by
  rw [messageOrKind, if_neg (by simpa using h)]

theorem append_ne_empty {s : String} (h : s ≠ "") (t : String) : s ++ t ≠ "" :=
  fun ht => h (String.append_eq_empty_iff.mp ht).1

theorem Failure.message_expression_ne (text reason : String) :
    (Failure.expression text reason).message ≠ "" :=
  append_ne_empty (append_ne_empty (append_ne_empty (by decide) text) "': ") reason

theorem Failure.message_parameter_ne (definition reason : String) :
    (Failure.parameter definition reason).message ≠ "" :=
  append_ne_empty (append_ne_empty (append_ne_empty (by decide) definition) "': ") reason

/-- Only faults can be without a message. -/
theorem Failure.eq_fault_of_message (h : f.message = "") : ∃ kind, f = .fault kind "" := by
  cases f with
  | expression text reason => exact absurd h (message_expression_ne text reason)
  | parameter definition reason => exact absurd h (message_parameter_ne definition reason)
  | fault kind message =>
    obtain rfl : message = "" := h
    exact ⟨kind, rfl⟩

/-- The name of a kind of fault leaves something behind the mark of a diagnostic. -/
theorem diagnostic_name_ne (kind : FaultKind) : diagnostic "" ≠ diagnostic kind.name := by
  cases kind <;> decide +kernel

/-- What is shown of a failure is what is recorded of it, exactly when it has a message. -/
theorem diagnostic_message_eq_iff :
    diagnostic f.message = diagnostic f.messageOrKind ↔ f.message ≠ "" := by
  constructor
  · intro h hempty
    obtain ⟨kind, rfl⟩ := Failure.eq_fault_of_message hempty
    exact diagnostic_name_ne kind h
  · intro h
    rw [Failure.messageOrKind_of_message h]

/-- A fault without a message is recorded by its kind, and nothing is shown of it. -/
example : (Failure.fault .missingKey "").messageOrKind = "KeyError" ∧
    diagnostic (Failure.fault .missingKey "").message = "[[ERROR]] // " := by decide +kernel

/-- How a failure is told when it comes up in a scope: in the scope `t` that is left, and in the
outcome. -/
structure Failure.Told (f : Failure) (s t : Scope) (o : Outcome) : Prop where
  /-- One error is recorded, -/
  recorded : t.errors = s.errors ++ [f.messageOrKind]
  /-- and nothing else in the scope is touched. -/
  bindings : t.bindings = s.bindings
  frames : t.frames = s.frames
  /-- The outcome is a miss and shows the message, and nothing of the line. -/
  miss : o.hit = false
  shown : o.text = diagnostic f.message
  /-- It shows what is recorded exactly when there is a message. -/
  agrees : o.text = diagnostic f.messageOrKind ↔ f.message ≠ ""

theorem Failure.told_error (f : Failure) (s : Scope) :
    f.Told s (s.error f.messageOrKind) ⟨false, diagnostic f.message⟩ where
  recorded := rfl
  bindings := rfl
  frames := rfl
  miss := rfl
  shown := rfl
  agrees := diagnostic_message_eq_iff

namespace Scope

variable {s : Scope} {text : String}

/-- Filtering fails exactly where the line comes to a rule whose pattern does. -/
theorem filterOrFail_eq_error_iff :
    s.filterOrFail e text m = .error f m' ↔
      ∃ p, s.Comes e text m p ∧ p.rule.PatternFails e s.bindings p.machine f m' := by
  rw [filterOrFail_eq_allGroups, applyAll_eq_error_iff]
  simp only [Rule.matchesIn_eq_error_iff]
  rfl

/-- **A pattern that fails is told once.** Filtering a line always gives an outcome. Either no
pattern fails that the line comes to, and the scope is as it was, or one does, and that is told. -/
theorem filter_told (s : Scope) (e : Evaluator) (text : String) (m : Machine) :
    ∃ o t m', s.filter e text m = .ok (o, t) m' ∧
      ((s.PatternsHold e text m ∧ t = s) ∨
        ∃ p f, s.Comes e text m p ∧ p.rule.PatternFails e s.bindings p.machine f m' ∧
          f.Told s t o) := by
  cases hrun : s.filterOrFail e text m with
  | error f m' =>
    obtain ⟨p, hcomes, hfails⟩ := filterOrFail_eq_error_iff.mp hrun
    exact ⟨_, _, m', filter_of_error hrun, .inr ⟨p, f, hcomes, hfails, f.told_error s⟩⟩
  | ok o m' =>
    refine ⟨o, s, m', filter_of_ok hrun, .inl ⟨fun p hcomes => ?_, rfl⟩⟩
    cases hmatches : p.rule.matchesIn e s.bindings p.outcome.text p.machine with
    | ok hits m₁ => exact ⟨hits, m₁, rfl⟩
    | error f m₁ =>
      -- The line has come to its end, and so no pattern has failed on its way.
      have hfails := (Rule.matchesIn_eq_error_iff _).mp hmatches
      rw [filterOrFail_eq_error_iff.mpr ⟨p, hcomes, hfails⟩] at hrun
      cases hrun

end Scope

/-! ## Failures with a message -/

/-- What the standard evaluator fails with names the text that it was given, or the failure to show a
key. -/
theorem message_of_evaluate {text : String}
    (h : Evaluator.standard.evaluate b text m = .error f m') : f.message ≠ "" := by
  by_cases hown : ∃ reason, f = .expression text reason
  · obtain ⟨reason, rfl⟩ := hown
    exact Failure.message_expression_ne text reason
  · have hleaks : Leaks text (Evaluator.standard.evaluate b text) m f :=
      ⟨⟨m', h⟩, not_exists.mp hown⟩
    exact (leaks_asFailureOf_iff.mp hleaks).unshowable.message_ne

/-- Patterns of the standard evaluator are not found without a message. -/
theorem message_of_resolve (b : Bindings) (text : String) :
    FailsOnly (·.message ≠ "") (Evaluator.standard.resolve b text) := by
  unfold Evaluator.resolve
  split
  · refine .bind (fun m f m' h => message_of_evaluate h) fun v => ?_
    exact (unshowable_asText v).mono fun f h => h.message_ne
  · exact .pure _
  · exact .pure _

/-- What is wrong with a pattern begins with words. -/
theorem Pattern.Cause.message_ne (c : Pattern.Cause) : c.message ≠ "" := by
  cases c <;> unfold Pattern.Cause.message <;> repeat refine append_ne_empty ?_ _
  all_goals decide

theorem Pattern.message_of_ofText {s : List Char} (h : Pattern.ofText s = .error f) :
    f.message ≠ "" := by
  rw [Pattern.ofText] at h
  split at h
  · cases h
  · next fault p hread =>
    rw [← Except.error.inj h]
    exact append_ne_empty fault.cause.message_ne _

/-- The patterns of the standard evaluator fail with a message. -/
theorem Rule.PatternFails.message_ne (h : r.PatternFails .standard b m f m') : f.message ≠ "" := by
  cases h with
  | uncomputed h => exact message_of_resolve b r.pattern m f m' h
  | invalid _ _ hread => exact Pattern.message_of_ofText hread

/-- **With the standard evaluator a pattern that fails is shown as it is recorded.** -/
theorem Scope.filter_told_standard (s : Scope) (text : String) (m : Machine) :
    ∃ o t m', s.filter .standard text m = .ok (o, t) m' ∧
      (t = s ∨ ∃ message, t = s.error message ∧ o = ⟨false, diagnostic message⟩) := by
  cases hrun : s.filterOrFail .standard text m with
  | ok o m' => exact ⟨o, s, m', filter_of_ok hrun, .inl rfl⟩
  | error f m' =>
    obtain ⟨p, -, hfails⟩ := filterOrFail_eq_error_iff.mp hrun
    have hmessage := Failure.messageOrKind_of_message hfails.message_ne
    refine ⟨_, _, m', filter_of_error hrun, .inr ⟨f.message, ?_, rfl⟩⟩
    rw [hmessage]

end Stencil
