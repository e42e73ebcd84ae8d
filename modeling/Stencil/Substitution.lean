import Stencil.Expr.Evaluator
import Stencil.Pattern.Match
import Stencil.Text.Find
/-!
# Stencil.Substitution -- rules and their combinations

A rule replaces every match of its pattern in a line. Rules are combined in groups of which the
first hit wins, and in chains of which every member works on what the one before it left. What is
handed on is an outcome: the text so far, and whether anything has been replaced.

The two ways to fail differ. A pattern that is invalid or cannot be computed fails the whole
substitution; a replacement that cannot be computed becomes the text of the line.
-/

namespace Stencil

open Stencil.Expr

/-! ## Outcomes -/

/-- The text so far, and whether a rule has replaced something in it. -/
structure Outcome where
  hit : Bool
  text : String
  deriving DecidableEq, Repr, Inhabited

namespace Outcome

/-- Nothing has been replaced in a text yet. -/
def initial (text : String) : Outcome := ⟨false, text⟩

/-- A hit with a text, or with the text as it is. -/
def asHit (o : Outcome) (text : Option String := none) : Outcome := ⟨true, text.getD o.text⟩

/-- Neither a hit nor its loss, with a text or with the text as it is. -/
def asMiss (o : Outcome) (text : Option String := none) : Outcome := ⟨o.hit, text.getD o.text⟩

/-- The same text as if nothing had been replaced. -/
def forceMiss (o : Outcome) : Outcome := ⟨false, o.text⟩

/-- The text with the hits of this and of an earlier outcome. -/
def rejoin (o earlier : Outcome) : Outcome := ⟨earlier.hit || o.hit, o.text⟩

/-- An outcome as it is shown. -/
def shown (o : Outcome) : String := (if o.hit then "hit:" else "miss:") ++ o.text

end Outcome

/-! ## Rules -/

/-- How the text of a pattern is understood. -/
inductive MatchMode where
  /-- As it stands. -/
  | plain
  /-- As a pattern with groups, classes and repetitions. -/
  | regex
  deriving DecidableEq, Repr

namespace MatchMode

/-- The name of a mode. -/
def name : MatchMode → String
  | plain => "plain"
  | regex => "regex"

/-- The sign that commands give a mode. -/
def sign : MatchMode → String
  | plain => "="
  | regex => "~"

end MatchMode

/-- A rule: a pattern and what is put for each of its matches. -/
structure Rule where
  mode : MatchMode
  pattern : String
  replacement : String
  deriving DecidableEq, Repr

/-- Where a pattern matches, and the texts of the whole match and of the groups. -/
structure Hit where
  start : Nat
  stop : Nat
  groups : List (List Char)
  deriving DecidableEq, Repr

/-- The matches of a pattern in a text, from left to right. -/
def MatchMode.hits (mode : MatchMode) (pattern text : List Char) : Except Failure (List Hit) :=
  match mode with
  | .plain => .ok ((Text.occurrences pattern text).map fun i => ⟨i, i + pattern.length, [pattern]⟩)
  | .regex => do
    let p ← Pattern.ofText pattern
    return (p.allMatches text).map fun m =>
      ⟨m.start, m.stop, (List.range (p.groups + 1)).map m.group⟩

/-- What a replacement sees of a match: the whole as `_0` and the groups as `_1` and so on. -/
def captures (groups : List (List Char)) : Layer :=
  (groups.map String.ofList).zipIdx.map fun (g, i) => ("_" ++ toString i, .str g)

/-- Put a text for each match. `rest` is what follows position `pos`. -/
def replaceHits (replacement : Hit → Act String) (pos : Nat) (rest : List Char) :
    List Hit → Act (List Char)
  | [] => return rest
  | h :: hs => do
    -- Replacements are computed from left to right, before the rest is put together.
    let new ← replacement h
    let after ← replaceHits replacement h.stop (rest.drop (h.stop - pos)) hs
    return rest.take (h.start - pos) ++ new.toList ++ after

namespace Rule

/-- The text that a rule puts for a match. -/
def replacementFor (r : Rule) (e : Evaluator) (b : Bindings) (h : Hit) : Act String :=
  e.resolve (b.push (captures h.groups)) r.replacement

/-- The text of a line for which no replacement can be computed. -/
def failedText (r : Rule) (f : Failure) : String :=
  errorMark ++ " " ++ r.replacement ++ ": " ++ f.describe

/-- Apply a rule. -/
def apply (r : Rule) (e : Evaluator) (b : Bindings) (o : Outcome) : Act Outcome := do
  let pattern ← e.resolve b r.pattern
  match ← Expr.ofExcept (r.mode.hits pattern.toList o.text.toList) with
  | [] => return o.asMiss
  | hits =>
    -- Only the replacement is guarded: a pattern that fails, fails the whole line.
    tryCatch
      (do
        let text ← replaceHits (r.replacementFor e b) 0 o.text.toList hits
        return o.asHit (some (String.ofList text)))
      fun f => return o.asMiss (some (r.failedText f))

/-- A rule as it is described. -/
def describe (r : Rule) : String := r.mode.name ++ ":" ++ r.pattern ++ "->" ++ r.replacement

/-- A rule as it is shown. -/
def shown (r : Rule) : String := "Rule[" ++ r.describe ++ "]"

end Rule

/-! ## Combinations -/

/-- Rules and combinations of them. -/
inductive Substitution where
  | rule (r : Rule)
  /-- The first member that hits wins. -/
  | first (members : List Substitution)
  /-- Every member works on what the one before it left. -/
  | all (members : List Substitution)
  deriving Inhabited

namespace Substitution

mutual

/-- Apply a substitution. A group starts afresh, so a hit before it does not end it. -/
def apply (e : Evaluator) (b : Bindings) : Substitution → Outcome → Act Outcome
  | .rule r, o => r.apply e b o
  | .first [], o => return o.asMiss
  | .first (m :: ms), o => do return (← applyFirst e b (m :: ms) o.forceMiss).rejoin o
  | .all ms, o => applyAll e b ms o

/-- Apply substitutions until one hits. -/
def applyFirst (e : Evaluator) (b : Bindings) : List Substitution → Outcome → Act Outcome
  | [], o => return o
  | m :: ms, o => do
    let o' ← m.apply e b o
    if o'.hit then return o' else applyFirst e b ms o'

/-- Apply substitutions one after the other. -/
def applyAll (e : Evaluator) (b : Bindings) : List Substitution → Outcome → Act Outcome
  | [], o => return o
  | m :: ms, o => do applyAll e b ms (← m.apply e b o)

end

/-- Whether a substitution holds nothing that could replace. -/
def isEmpty : Substitution → Bool
  | .rule _ => false
  | .first ms | .all ms => ms.isEmpty

mutual

/-- A substitution as it is described. -/
def describe : Substitution → String
  | .rule r => r.describe
  | .first ms | .all ms => ",".intercalate (showAll ms)

/-- A substitution as it is shown. -/
def shown : Substitution → String
  | .rule r => r.shown
  | .first ms => "First[" ++ ",".intercalate (showAll ms) ++ "]"
  | .all ms => "All[" ++ ",".intercalate (showAll ms) ++ "]"

/-- Substitutions as they are shown. -/
def showAll : List Substitution → List String
  | [] => []
  | m :: ms => m.shown :: showAll ms

end

end Substitution

end Stencil
