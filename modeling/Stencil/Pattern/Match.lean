import Stencil.Pattern.Reader
import Stencil.Text.SameLetter
/-!
# Stencil.Pattern.Match -- matching

A pattern is matched at a place of a text by trying its choices in order and coming back to the next
one when what follows fails. What follows is a function from the trail so far, that is, the place
reached and what the groups have matched. Repetitions count their rounds; a round that matches
nothing ends them. All matches of a text are found from left to right and do not overlap.
-/

namespace Stencil.Pattern

/-! ## Places -/

/-- A place in a text: its position, what stands before it (the nearest character first), and what
follows. -/
structure Cursor where
  pos : Nat := 0
  before : List Char := []
  after : List Char
  deriving DecidableEq, Repr, Inhabited

namespace Cursor

/-- One character further. -/
def forward (c : Cursor) : Option (Char × Cursor) :=
  match c.after with
  | [] => none
  | x :: r => some (x, ⟨c.pos + 1, x :: c.before, r⟩)

/-- Some characters back. -/
def back : Nat → Cursor → Option Cursor
  | 0, c => some c
  | n + 1, c =>
    match c.before with
    | [] => none
    | x :: r => back n ⟨c.pos - 1, r, x :: c.after⟩

end Cursor

/-- The text between two places. -/
structure Span where
  start : Cursor
  stop : Cursor
  deriving Inhabited

/-- The characters between two places. -/
def Span.chars (s : Span) : List Char := s.start.after.take (s.stop.pos - s.start.pos)

/-- The place that a match has reached, and what its groups have matched, the latest first. -/
structure Trail where
  here : Cursor
  groups : List (Nat × Span) := []
  deriving Inhabited

/-- What is to be matched next. -/
abbrev Next := Trail → Option Trail

/-! ## Characters -/

/-- Whether a character has a category. -/
def Category.holds (kind : Category) (ascii : Bool) (c : Char) : Bool :=
  match kind with
  | .digit => if ascii then c.isDigit else Text.isDecimal c
  | .blank => if ascii then c == ' ' || (9 ≤ c.toNat && c.toNat ≤ 13) else Text.isBlank c
  | .word => if ascii then c.isAlphanum || c == '_' else Text.isWord c

/-- Whether a character is a member of a class. -/
def ClassItem.holds (ascii : Bool) (c : Char) : ClassItem → Bool
  | .char code => c.toNat == code
  | .range first last => first ≤ c.toNat && c.toNat ≤ last
  | .category kind negated => kind.holds ascii c != negated

/-- The characters that count as the same as a character. -/
def Flags.forms (f : Flags) (c : Char) : List Char :=
  if !f.ignoreCase then [c] else if f.ascii then [c, c.toLower, c.toUpper] else Text.formsOf c

/-- Whether a character belongs to a class, or not when that is asked for. -/
def belongs (negated : Bool) (items : List ClassItem) (f : Flags) (c : Char) : Bool :=
  ((f.forms c).any fun d => items.any (·.holds f.ascii d)) != negated

/-- A character as it is compared with what a group has matched. -/
def Flags.plain (f : Flags) (c : Char) : Char :=
  if !f.ignoreCase then c else if f.ascii then c.toLower else Text.lowerChar c

/-- Pass a text. -/
def passChars (f : Flags) : List Char → Cursor → Option Cursor
  | [], c => some c
  | x :: xs, c =>
    match c.forward with
    | none => none
    | some (y, c') => if f.plain x == f.plain y then passChars f xs c' else none

/-- Whether the character beside a place belongs to words. -/
def wordBeside (ascii : Bool) : List Char → Bool
  | [] => false
  | c :: _ => Category.word.holds ascii c

/-- Whether a place is the one asked for. An empty text has no words, and neither boundaries nor
places without one. -/
def Anchor.holds (a : Anchor) (ascii : Bool) (c : Cursor) : Bool :=
  match a with
  | .textStart => c.before.isEmpty
  | .textEnd => c.after.isEmpty
  | .lineStart => c.before.isEmpty || c.before.head? == some '\n'
  | .lineEnd => c.after.isEmpty || c.after.head? == some '\n'
  | .lastLineEnd => c.after.isEmpty || c.after == ['\n']
  | .wordBoundary => wordBeside ascii c.before != wordBeside ascii c.after
  | .noWordBoundary =>
    !(c.before.isEmpty && c.after.isEmpty) && wordBeside ascii c.before == wordBeside ascii c.after

/-! ## Repetitions -/

/-- Whether another round may follow. -/
def mayRepeat (most count : Nat) (last : Option Nat) (t : Trail) : Bool :=
  (count < most || most == unbounded) && last != some t.here.pos

/-- As many rounds as possible first. `last` is the place where the latest optional round began. -/
def greedyRounds (body : Trail → Next → Option Trail) (least most : Nat) (k : Next) :
    Nat → Nat → Option Nat → Trail → Option Trail
  | 0, _, _, _ => none
  | fuel + 1, count, last, t =>
    -- Demanded rounds may match nothing; only optional ones must get on.
    if count < least then body t (greedyRounds body least most k fuel (count + 1) last)
    else if mayRepeat most count last t then
      match body t (greedyRounds body least most k fuel (count + 1) (some t.here.pos)) with
      | some found => some found
      | none => k t
    else k t

/-- As few rounds as possible first. -/
def lazyRounds (body : Trail → Next → Option Trail) (least most : Nat) (k : Next) :
    Nat → Nat → Option Nat → Trail → Option Trail
  | 0, _, _, _ => none
  | fuel + 1, count, last, t =>
    if count < least then body t (lazyRounds body least most k fuel (count + 1) last)
    else
      match k t with
      | some found => some found
      | none =>
        if mayRepeat most count last t then
          body t (lazyRounds body least most k fuel (count + 1) (some t.here.pos))
        else none

/-- As many rounds as possible and no other number, each in the first way that matches. -/
def possessiveRounds (body : Trail → Next → Option Trail) (least most : Nat) :
    Nat → Nat → Option Nat → Trail → Option Trail
  | 0, _, _, _ => none
  | fuel + 1, count, last, t =>
    if count < least then
      match body t some with
      | some t' => possessiveRounds body least most fuel (count + 1) last t'
      | none => none
    else if mayRepeat most count last t then
      match body t some with
      | some t' => possessiveRounds body least most fuel (count + 1) (some t.here.pos) t'
      | none => some t
    else some t

/-- What stays the same while a text is matched: its length, and the widths of the groups. -/
structure Subject where
  length : Nat
  widths : Nat → Nat × Nat

/-- How many rounds there can be: the demanded ones, one for each character, and one that matches
nothing. -/
def Subject.rounds (x : Subject) (least : Nat) : Nat := least + x.length + 2

/-! ## Matching -/

mutual

/-- Match a pattern and then what follows. -/
def Node.follow (x : Subject) : Node → Trail → Next → Option Trail
  | .one negated items flags, t, k =>
    match t.here.forward with
    | some (c, here) => if belongs negated items flags c then k { t with here := here } else none
    | none => none
  | .any dotAll, t, k =>
    match t.here.forward with
    | some (c, here) => if dotAll || c != '\n' then k { t with here := here } else none
    | none => none
  | .anchor a ascii, t, k => if a.holds ascii t.here then k t else none
  | .sequence parts, t, k => followAll x parts t k
  | .choice branches, t, k => followAny x branches t k
  | .loop least most greed body, t, k =>
    let round (t : Trail) (k : Next) : Option Trail := body.follow x t k
    match greed with
    | .greedy => greedyRounds round least most k (x.rounds least) 0 none t
    | .lazy => lazyRounds round least most k (x.rounds least) 0 none t
    | .possessive => (possessiveRounds round least most (x.rounds least) 0 none t).bind k
  | .group none body, t, k => body.follow x t k
  | .group (some i) body, t, k =>
    body.follow x t fun t' => k { t' with groups := (i, ⟨t.here, t'.here⟩) :: t'.groups }
  | .atomic body, t, k => (body.follow x t some).bind k
  | .look behind negated body, t, k =>
    -- What stands before is looked at from as far back as the pattern is wide.
    let start := if behind then t.here.back (body.width x.widths).1 else some t.here
    let found := start.bind fun c => body.follow x { t with here := c } some
    match found with
    -- The groups that were matched are kept, the place is not.
    | some t' => if negated then none else k { t with groups := t'.groups }
    | none => if negated then k t else none
  | .again i flags, t, k =>
    match t.groups.lookup i with
    | some s =>
      match passChars flags s.chars t.here with
      | some c => k { t with here := c }
      | none => none
    | none => none
  | .conditional i yes no, t, k =>
    if (t.groups.lookup i).isSome then yes.follow x t k else no.follow x t k
  | .never, _, _ => none

/-- Match patterns one after the other and then what follows. -/
def followAll (x : Subject) : List Node → Trail → Next → Option Trail
  | [], t, k => k t
  | n :: ns, t, k => n.follow x t fun t' => followAll x ns t' k

/-- Match the first of several patterns after which what follows matches. -/
def followAny (x : Subject) : List Node → Trail → Next → Option Trail
  | [], _, _ => none
  | n :: ns, t, k =>
    match n.follow x t k with
    | some found => some found
    | none => followAny x ns t k

end

end Stencil.Pattern

namespace Stencil

/-! ## Matches -/

/-- A match of a pattern: its place, and what its groups have matched. -/
structure Match where
  span : Pattern.Span
  groups : List (Nat × Pattern.Span) := []
  deriving Inhabited

namespace Match

/-- Where a match starts. -/
def start (m : Match) : Nat := m.span.start.pos

/-- Where a match stops. -/
def stop (m : Match) : Nat := m.span.stop.pos

/-- What a group has matched. Group zero is the whole match; a group that takes no part has matched
nothing. -/
def group (m : Match) : Nat → List Char
  | 0 => m.span.chars
  | i => ((m.groups.lookup i).map (·.chars)).getD []

end Match

namespace Pattern

/-- The match at a place of a text of some length. Where `advance` is set, it must not be empty. -/
def matchAt (p : Pattern) (length : Nat) (advance : Bool) (c : Cursor) : Option Match :=
  (p.node.follow ⟨length, p.widths⟩ ⟨c, []⟩ fun t =>
    if advance && t.here.pos == c.pos then none else some t).map fun t => ⟨⟨c, t.here⟩, t.groups⟩

/-- The first match at a place or after it, given by what stands before and after the place. Only a
match at the place itself may be barred from being empty. -/
def searchFrom (p : Pattern) (length : Nat) (advance : Bool) (pos : Nat) (before : List Char) :
    List Char → Option Match
  | [] => p.matchAt length advance ⟨pos, before, []⟩
  | c :: r =>
    match p.matchAt length advance ⟨pos, before, c :: r⟩ with
    | some m => some m
    | none => p.searchFrom length false (pos + 1) (c :: before) r

/-- The matches from a place on. After an empty match the next one at its place is not empty. -/
def matchesFrom (p : Pattern) (length : Nat) : Nat → Bool → Cursor → List Match
  | 0, _, _ => []
  | fuel + 1, advance, c =>
    match p.searchFrom length advance c.pos c.before c.after with
    | none => []
    | some m => m :: p.matchesFrom length fuel (m.start == m.stop) m.span.stop

/-- All matches in a text, from left to right. At each place there is at most one that is empty and
one that is not. -/
def allMatches (p : Pattern) (s : List Char) : List Match :=
  p.matchesFrom s.length (2 * s.length + 2) false { after := s }

end Pattern

/-! ## Quoting -/

namespace Pattern

/-- The characters that mean something in a pattern, or may when blanks and remarks are allowed. -/
def isSpecial (c : Char) : Bool := "()[]\x7b\x7d?*+-|^$\\.&~# \t\n\r\x0b\x0c".toList.contains c

/-- The pattern that matches just a text. -/
def quote (s : List Char) : List Char :=
  s.flatMap fun c => if isSpecial c then ['\\', c] else [c]

end Pattern

end Stencil
