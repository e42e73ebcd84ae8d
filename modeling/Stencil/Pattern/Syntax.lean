import Stencil.Failure
/-!
# Stencil.Pattern.Syntax -- patterns

A pattern describes texts: characters of a class, places, sequences, alternatives and repetitions of
these, groups that remember what they matched, and conditions on what stands before or after.
`Node.width` bounds the number of characters that a pattern matches.
-/

namespace Stencil.Pattern

/-- How letters and classes are understood. -/
structure Flags where
  ignoreCase : Bool := false
  multiLine : Bool := false
  dotAll : Bool := false
  verbose : Bool := false
  ascii : Bool := false
  deriving DecidableEq, Repr, Inhabited

/-- The classes of characters that have an escape of their own. -/
inductive Category where
  | digit | blank | word
  deriving DecidableEq, Repr

/-- A member of a class of characters; characters are given by their code points. -/
inductive ClassItem where
  | char (code : Nat)
  | range (first last : Nat)
  | category (kind : Category) (negated : Bool)
  deriving DecidableEq, Repr

/-- Places in a text. -/
inductive Anchor where
  | textStart | textEnd | lineStart | lineEnd | lastLineEnd | wordBoundary | noWordBoundary
  deriving DecidableEq, Repr

/-- How often and in which order numbers of repetitions are tried. -/
inductive Greed where
  /-- As many as possible first. -/
  | greedy
  /-- As few as possible first. -/
  | lazy
  /-- As many as possible, and no other number. -/
  | possessive
  deriving DecidableEq, Repr

/-- A pattern. -/
inductive Node where
  /-- One character of a class, or not of it. -/
  | one (negated : Bool) (items : List ClassItem) (flags : Flags)
  /-- One character; a line feed only with `dotAll`. -/
  | any (dotAll : Bool)
  | anchor (a : Anchor) (ascii : Bool)
  | sequence (parts : List Node)
  | choice (branches : List Node)
  | loop (least : Nat) (most : Nat) (greed : Greed) (body : Node)
  /-- A group; `index` is none for a group that remembers nothing. -/
  | group (index : Option Nat) (body : Node)
  /-- What is matched at the first attempt or not at all. -/
  | atomic (body : Node)
  /-- A condition on what follows, or on what stands before. -/
  | look (behind negated : Bool) (body : Node)
  /-- The text that a group has matched. -/
  | again (index : Nat) (flags : Flags)
  /-- A pattern that depends on whether a group has matched. -/
  | conditional (index : Nat) (yes no : Node)
  /-- What never matches. -/
  | never
  deriving Inhabited, Repr

/-- The number of repetitions that stands for any number. -/
def unbounded : Nat := 4294967295

/-- The least and the greatest number of characters, as far as they are told apart. -/
def clampWidth (w : Nat × Nat) : Nat × Nat := (min w.1 (unbounded - 1), min w.2 unbounded)

mutual

/-- The least and the greatest number of characters that a pattern matches, given those of the
groups. -/
def Node.width (groups : Nat → Nat × Nat) : Node → Nat × Nat
  | .one .. | .any _ => (1, 1)
  | .anchor .. | .look .. | .never => (0, 0)
  | .sequence parts => clampWidth (widthOfSequence groups parts)
  | .choice branches => clampWidth (widthOfChoice groups branches)
  | .loop least most _ body =>
    let (lo, hi) := body.width groups
    clampWidth (lo * least, hi * most)
  | .group _ body | .atomic body => body.width groups
  | .again index _ => groups index
  | .conditional _ yes no =>
    let (a, b) := yes.width groups
    let (c, d) := no.width groups
    (min a c, max b d)

/-- The widths of patterns that follow each other. -/
def widthOfSequence (groups : Nat → Nat × Nat) : List Node → Nat × Nat
  | [] => (0, 0)
  | n :: ns =>
    let (a, b) := n.width groups
    let (c, d) := widthOfSequence groups ns
    (a + c, b + d)

/-- The widths of patterns one of which is chosen. -/
def widthOfChoice (groups : Nat → Nat × Nat) : List Node → Nat × Nat
  | [] => (unbounded - 1, 0)
  | n :: ns =>
    let (a, b) := n.width groups
    let (c, d) := widthOfChoice groups ns
    (min a c, max b d)

end

mutual

/-- Whether every condition on what stands before has one width only. -/
def Node.looksBehindWell (groups : Nat → Nat × Nat) : Node → Bool
  | .sequence parts => allLookBehindWell groups parts
  | .choice branches => allLookBehindWell groups branches
  | .loop _ _ _ body | .group _ body | .atomic body => body.looksBehindWell groups
  | .look behind _ body =>
    (!behind || (body.width groups).1 == (body.width groups).2) && body.looksBehindWell groups
  | .conditional _ yes no => yes.looksBehindWell groups && no.looksBehindWell groups
  | _ => true

/-- The same for several patterns. -/
def allLookBehindWell (groups : Nat → Nat × Nat) : List Node → Bool
  | [] => true
  | n :: ns => n.looksBehindWell groups && allLookBehindWell groups ns

end

end Stencil.Pattern

namespace Stencil

/-- A pattern ready for use: what it matches, the number of its groups, and their widths. -/
structure Pattern where
  node : Pattern.Node
  groups : Nat
  widths : Nat → Nat × Nat

end Stencil
