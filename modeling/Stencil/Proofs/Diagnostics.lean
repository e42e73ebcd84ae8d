import Stencil.Proofs.Stops
/-!
# Stencil.Proofs.Diagnostics -- replacements that fail

A replacement that fails makes the line a diagnostic, whatever the rules before it have made of the
line and however many matches have been replaced by then. The diagnostic is a text like any other:
it goes on to the rules behind, in the same group, in the groups after it and in the frames around,
and they do to it what they would do to a line that reads the same. It is seen unchanged when none
of them finds a match in it; a rule may well find one, be it in the mark of the diagnostic.
-/

namespace Stencil

open Stencil.Expr

/-- What a line reads when the replacement of a rule has failed. -/
def Rule.diagnosticText (r : Rule) (f : Failure) : String :=
  "[[ERROR]] " ++ r.replacement ++ ": " ++ f.describe

theorem Rule.failedText_eq (r : Rule) (f : Failure) : r.failedText f = r.diagnosticText f := by
  rw [failedText, diagnosticText]
  rfl

/-- A text comes to a rule, and the replacement of the rule fails there. -/
structure Scope.FailsAt (s : Scope) (e : Evaluator) (text : String) (m : Machine) (p : Stop)
    (f : Failure) (m' : Machine) : Prop where
  comes : s.Comes e text m p
  fails : p.rule.ReplacementFails e s.bindings p.outcome.text p.machine f m'

/-- What becomes of a text when a replacement fails at a stop and leaves `shown`. -/
structure Scope.Diagnosed (s : Scope) (e : Evaluator) (text : String) (m : Machine) (p : Stop)
    (shown : String) (m' : Machine) : Prop where
  /-- The rule leaves the diagnostic, and no hit of its own. -/
  left : p.rule.apply e s.bindings p.outcome p.machine = .ok ⟨p.outcome.hit, shown⟩ m'
  /-- What is behind the stop makes of the diagnostic what it makes of a line that reads so. -/
  behind : ∃ o m'', Substitution.applyAll e s.bindings (p.behind.map groupOf)
      (Outcome.initial shown) m' = .ok o m'' ∧ s.filter e text m = .ok (o.rejoin p.outcome, s) m''
  /-- Where no rule behind finds a match in it, the diagnostic is what is left of the text. -/
  kept : (∀ q, Stencil.Comes e s.bindings p.behind (Outcome.initial shown) m' q →
      ∃ m₁, q.rule.matchesIn e s.bindings q.outcome.text q.machine = .ok [] m₁) →
    ∃ m'', s.filter e text m = .ok (⟨p.outcome.hit, shown⟩, s) m''

namespace Scope

variable {s : Scope} {e : Evaluator} {text : String} {m m' : Machine} {p : Stop} {f : Failure}

/-- The rest of the way of a text after a replacement has failed. -/
theorem FailsAt.filterOrFail (h : s.FailsAt e text m p f m') :
    s.filterOrFail e text m =
      (do return (← Substitution.applyAll e s.bindings (p.behind.map groupOf)
        (Outcome.initial (p.rule.failedText f))).rejoin p.outcome) m' := by
  have hrule : p.rule.apply e s.bindings p.outcome.forceMiss p.machine =
      .ok ⟨false, p.rule.failedText f⟩ m' := Rule.apply_of_failing h.fails
  have hrejoin : (⟨p.outcome.hit, p.rule.failedText f⟩ : Outcome) =
      (Outcome.initial (p.rule.failedText f)).rejoin p.outcome := by
    simp [Outcome.initial, Outcome.rejoin]
  rw [filterOrFail_eq_allGroups, applyAll_of_comes h.comes, Stop.groups, applyAll_of_miss hrule,
    hrejoin, Substitution.applyAll_rejoin]
  rfl

/-- **A replacement that fails leaves its diagnostic and nothing else of the line**, whatever has
been done to the line before, and what is behind goes on with the diagnostic as with any line. -/
theorem diagnosed_of_failsAt (h : s.FailsAt e text m p f m') (hpatterns : s.PatternsHold e text m) :
    s.Diagnosed e text m p (p.rule.diagnosticText f) m' := by
  have hway := h.filterOrFail
  rw [Rule.failedText_eq] at hway
  obtain ⟨o, m₁, hrun⟩ := hpatterns.exists_filterOrFail
  refine ⟨?_, ?_, ?_⟩
  · rw [← Rule.failedText_eq]
    exact Rule.apply_of_failing h.fails
  · rw [hway] at hrun
    obtain ⟨o', m'', hbehind, hpure⟩ := bind_eq_ok_iff.mp hrun
    exact ⟨o', m'', hbehind, filter_of_ok (hway.trans (bind_of_ok hbehind))⟩
  · intro hnone
    obtain ⟨m'', hkept⟩ := applyAll_of_no_match hnone
    refine ⟨m'', filter_of_ok (hway.trans ((bind_of_ok hkept).trans ?_))⟩
    simp [Outcome.initial, Outcome.rejoin]

end Scope

/-! ## A diagnostic that is rewritten -/

/-- A rule whose replacement is an expression. -/
def computedRule : Rule := ⟨.plain, "a", "!x"⟩

/-- A rule that finds a match in every diagnostic. -/
def notedRule : Rule := ⟨.plain, "ERROR", "note"⟩

/-- A scope in which a line goes through both rules. -/
def twoRules : Scope := ((({} : Scope).add computedRule).newGroup).add notedRule

/-- An evaluator for which one expression fails. -/
def failingEvaluator : Evaluator := .table [] [("x", .fault .badValue "boom")]

/-- The machine after that expression has been asked for. -/
def askedMachine : Machine := { journal := ["x"] }

/-- The stop at the first rule. -/
def computedStop : Stop := ⟨computedRule, [], [[notedRule]], Outcome.initial "a", {}⟩

theorem failsAt_computed :
    twoRules.FailsAt failingEvaluator "a" {} computedStop (.fault .badValue "boom")
      askedMachine where
  comes := .here
  fails := ⟨[], ⟨0, 1, [['a']]⟩, [], [], {}, {}, rfl, rfl, rfl⟩

/-- Literal patterns do not fail. -/
theorem patternsHold_twoRules (text : String) (m : Machine) :
    twoRules.PatternsHold failingEvaluator text m := by
  intro p hp
  have hmem : p.rule ∈ [computedRule, notedRule] := Comes.rule_mem hp
  rcases List.mem_cons.mp hmem with hrule | hmem
  · rw [hrule]
    exact ⟨_, _, rfl⟩
  · rw [List.mem_singleton.mp hmem]
    exact ⟨_, _, rfl⟩

/-- What is said of a replacement that fails holds of the first of the two rules. -/
theorem diagnosed_twoRules :
    twoRules.FailsAt failingEvaluator "a" {} computedStop (.fault .badValue "boom") askedMachine ∧
      twoRules.PatternsHold failingEvaluator "a" {} ∧
      twoRules.Diagnosed failingEvaluator "a" {} computedStop "[[ERROR]] !x: boom" askedMachine :=
  ⟨failsAt_computed, patternsHold_twoRules "a" {},
    Scope.diagnosed_of_failsAt failsAt_computed (patternsHold_twoRules "a" {})⟩

/-- That diagnostics always stay as they are. -/
def DiagnosticsStay : Prop :=
  ∀ (s : Scope) (e : Evaluator) (text : String) (m : Machine) (p : Stop) (f : Failure)
    (m' : Machine), s.FailsAt e text m p f m' → s.PatternsHold e text m →
    ∃ o t m'', s.filter e text m = .ok (o, t) m'' ∧ o.text = p.rule.diagnosticText f

/-- The second of the two rules writes into the diagnostic of the first. -/
theorem not_diagnosticsStay : ¬DiagnosticsStay := by
  intro hstay
  obtain ⟨o, t, m'', hfilter, htext⟩ :=
    hstay twoRules failingEvaluator "a" {} computedStop _ _ failsAt_computed
      (patternsHold_twoRules "a" {})
  have hnoted : twoRules.filter failingEvaluator "a" {} =
      .ok (⟨true, "[[note]] !x: boom"⟩, twoRules) askedMachine := rfl
  rw [hnoted] at hfilter
  obtain ⟨rfl, rfl⟩ := Prod.mk.inj (EStateM.Result.ok.inj hfilter).1
  exact absurd htext (by decide)

end Stencil
