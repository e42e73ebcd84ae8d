import Stencil.Number.Integer
import Stencil.Pattern.Fault
import Stencil.Pattern.Syntax
import Stencil.Text.CharName
import Stencil.Text.Identifier
import Stencil.Text.Property
/-!
# Stencil.Pattern.Reader -- reading patterns

A pattern is read from left to right, a character or a backslash with the character after it at a
time. Groups are numbered by their opening parentheses. A reference may only be to a group that is
closed, except that a condition may also name a group that is opened later.
-/

namespace Stencil.Pattern

/-! ## The text that is read -/

/-- How far a pattern has been read: what is left and its position, the flags of the whole pattern,
the names of the groups, the widths of the closed ones, how many groups there were before the
outermost condition on what stands before, and the groups that conditions have named. -/
structure Progress where
  rest : List Char
  pos : Nat := 0
  flags : Flags := {}
  /-- Whether the whole pattern is told to know all letters. -/
  unicode : Bool := false
  names : List (List Char × Nat) := []
  widths : Array (Option (Nat × Nat)) := #[none]
  behind : Option Nat := none
  named : List (Nat × Nat) := []

/-- Reading a pattern. -/
abbrev Reading := EStateM Fault Progress

/-- Fail at a position. -/
def failAt {α : Type} (position : Nat) (cause : Cause) : Reading α :=
  throw ⟨cause, some position⟩

/-- Fail some characters before the place reached. -/
def failBack {α : Type} (count : Nat) (cause : Cause) : Reading α := do
  failAt ((← get).pos - count) cause

/-- The next token. -/
def tokenAt : List Char → Option (List Char)
  | [] => none
  | '\\' :: c :: _ => some ['\\', c]
  | c :: _ => some [c]

/-- Refuse a backslash at the very end. -/
def checkEnd : Reading Unit := do
  let s ← get
  if s.rest == ['\\'] then failAt s.pos .endOfEscape

/-- The next token, which is not passed. -/
def next : Reading (Option (List Char)) := do return tokenAt (← get).rest

/-- Pass the next token. -/
def advance : Reading Unit := do
  let s ← get
  let n := ((tokenAt s.rest).getD []).length
  set { s with rest := s.rest.drop n, pos := s.pos + n }
  checkEnd

/-- Take the next token. -/
def take : Reading (Option (List Char)) := do
  let t ← next
  advance
  return t

/-- Pass a character if it is next. -/
def accept (c : Char) : Reading Bool := do
  if (← next) == some [c] then
    advance
    return true
  else return false

/-- Take characters of a class, up to a number of them. -/
def takeWhile (p : Char → Bool) : Nat → Reading (List Char)
  | 0 => return []
  | n + 1 => do
    match ← next with
    | some [c] =>
      if p c then
        advance
        return c :: (← takeWhile p n)
      else return []
    | _ => return []

/-- Take a name up to its terminator. -/
def takeName (terminator : Char) (what : String) : Reading (List Char) := do
  go [] ((← get).rest.length + 1)
where
  /-- The same, when some of the name has been taken. -/
  go (so : List Char) : Nat → Reading (List Char)
    | 0 => failBack 0 (.missing what)
    | n + 1 => do
      match ← take with
      | none =>
        if so.isEmpty then failBack 0 (.missing what)
        else failBack so.length (.unterminatedName terminator)
      | some t =>
        if t == [terminator] then
          if so.isEmpty then failBack 1 (.missing what) else return so
        else go (so ++ t) n

/-! ## Escapes -/

/-- Whether a character is a letter of the first 128. -/
def isPlainLetter (c : Char) : Bool := ('a' ≤ c && c ≤ 'z') || ('A' ≤ c && c ≤ 'Z')

/-- Whether a character is an octal digit. -/
def isOctalDigit (c : Char) : Bool := '0' ≤ c && c ≤ '7'

/-- The value of a hexadecimal digit. -/
def hexDigit? (c : Char) : Option Nat :=
  if c.isDigit then some (c.toNat - 48)
  else if 'a' ≤ c && c ≤ 'f' then some (c.toNat - 87)
  else if 'A' ≤ c && c ≤ 'F' then some (c.toNat - 55)
  else none

/-- The number that digits of a base write. -/
def numberOf (base : Nat) (s : List Char) : Nat :=
  s.foldl (fun n c => n * base + (hexDigit? c).getD 0) 0

/-- The code point that a simple escape stands for. -/
def escapedCode? (c : Char) : Option Nat :=
  if c == 'a' then some 7
  else if c == 'b' then some 8
  else if c == 'f' then some 12
  else if c == 'n' then some 10
  else if c == 'r' then some 13
  else if c == 't' then some 9
  else if c == 'v' then some 11
  else if c == '\\' then some 92
  else none

/-- The class that an escape stands for. -/
def escapedCategory? (c : Char) : Option ClassItem :=
  if c == 'd' then some (.category .digit false)
  else if c == 'D' then some (.category .digit true)
  else if c == 's' then some (.category .blank false)
  else if c == 'S' then some (.category .blank true)
  else if c == 'w' then some (.category .word false)
  else if c == 'W' then some (.category .word true)
  else none

/-- The place that an escape stands for. -/
def escapedAnchor? (c : Char) : Option Anchor :=
  if c == 'A' then some .textStart
  else if c == 'b' then some .wordBoundary
  else if c == 'B' then some .noWordBoundary
  else if c == 'Z' then some .textEnd
  else none

/-- The code point that an escape with digits or a name stands for, or none when the character
starts no such escape. -/
def longEscape (c : Char) : Reading (Option Nat) := do
  let hex (count : Nat) : Reading Nat := do
    let ds ← takeWhile (fun d => (hexDigit? d).isSome) count
    if ds.length < count then
      failBack (ds.length + 2) (.incompleteEscape ('\\' :: c :: ds))
    let n := numberOf 16 ds
    if n > 0x10FFFF then failBack (ds.length + 2) (.badEscape ('\\' :: c :: ds))
    return n
  if c == 'x' then return some (← hex 2)
  else if c == 'u' then return some (← hex 4)
  else if c == 'U' then return some (← hex 8)
  else if c == 'N' then
    if !(← accept '\x7b') then failBack 0 (.missing "\x7b")
    let name ← takeName '\x7d' "character name"
    match Text.charNamed? name with
    | some d => return some d.toNat
    | none => failBack (name.length + 4) (.unknownCharacter name)
  else return none

/-- An escape in a class of characters. -/
def classEscape (c : Char) : Reading ClassItem := do
  match escapedCode? c, escapedCategory? c with
  | some n, _ => return .char n
  | _, some item => return item
  | none, none =>
    match ← longEscape c with
    | some n => return .char n
    | none =>
      if isOctalDigit c then
        let ds ← takeWhile isOctalDigit 2
        let n := numberOf 8 (c :: ds)
        if n > 255 then failBack (ds.length + 2) (.octalTooLarge ('\\' :: c :: ds))
        return .char n
      else if c.isDigit || isPlainLetter c then failBack 2 (.badEscape ['\\', c])
      else return .char c.toNat

/-- Whether a group may be referred to. -/
def isClosed (index : Nat) : Reading Bool := do
  return (((← get).widths[index]?).join).isSome

/-- Refuse a reference from within a condition on what stands before to a group in it. -/
def checkBehind (index : Nat) : Reading Unit := do
  match (← get).behind with
  | none => return ()
  | some before =>
    if !(← isClosed index) then failBack 0 .openGroup
    if index ≥ before then failBack 0 .sameLookBehind

/-- An escape that starts with a digit other than zero: a reference to a group, or an octal code
point of three digits. -/
def digitEscape (flags : Flags) (c : Char) : Reading Node := do
  let more ← takeWhile Char.isDigit 1
  let octal ← match more with
    | [d] =>
      if isOctalDigit c && isOctalDigit d then takeWhile isOctalDigit 1 else pure []
    | _ => pure []
  let ds := c :: more ++ octal
  if !octal.isEmpty then
    let n := numberOf 8 ds
    if n > 255 then failBack (ds.length + 1) (.octalTooLarge ('\\' :: ds))
    return .one false [.char n] flags
  let index := numberOf 10 ds
  if index < (← get).widths.size then
    if !(← isClosed index) then failBack (ds.length + 1) .openGroup
    checkBehind index
    return .again index flags
  else failBack ds.length (.badReference index)

/-- An escape. -/
def escape (flags : Flags) (c : Char) : Reading Node := do
  let one (item : ClassItem) : Node := .one false [item] flags
  match escapedAnchor? c, escapedCategory? c, escapedCode? c with
  | some a, _, _ => return .anchor a flags.ascii
  | _, some item, _ => return one item
  | _, _, some n => return one (.char n)
  | none, none, none =>
    match ← longEscape c with
    | some n => return one (.char n)
    | none =>
      if c == '0' then return one (.char (numberOf 8 (← takeWhile isOctalDigit 2)))
      else if c.isDigit then digitEscape flags c
      else if isPlainLetter c then failBack 2 (.badEscape ['\\', c])
      else return one (.char c.toNat)

/-! ## Classes -/

/-- A character or an escape in a class. -/
def classMember (t : List Char) : Reading ClassItem :=
  match t with
  | ['\\', c] => classEscape c
  | c :: _ => return .char c.toNat
  | [] => return .char 0

/-- The members of a class after its opening bracket, which is at a position. A closing bracket that
comes first is a member. -/
def classItems (opening : Nat) (so : List ClassItem) : Nat → Reading (List ClassItem)
  | 0 => failAt opening .unterminatedClass
  | n + 1 => do
    match ← take with
    | none => failAt opening .unterminatedClass
    | some t =>
      if t == [']'] && !so.isEmpty then return so.reverse
      let first ← classMember t
      if !(← accept '-') then classItems opening (first :: so) n
      else
        match ← take with
        | none => failAt opening .unterminatedClass
        | some u =>
          if u == [']'] then return (.char '-'.toNat :: first :: so).reverse
          let last ← classMember u
          match first, last with
          | .char lo, .char hi =>
            if hi < lo then failBack (t.length + 1 + u.length) (.badRange t u)
            classItems opening (.range lo hi :: so) n
          | _, _ => failBack (t.length + 1 + u.length) (.badRange t u)

/-- A class after its opening bracket. -/
def classNode (flags : Flags) : Reading Node := do
  let s ← get
  let negated ← accept '^'
  return .one negated (← classItems (s.pos - 1) [] (s.rest.length + 1)) flags

/-! ## Repetitions -/

/-- The bounds of a repetition in braces, after the opening one; none when there are none and the
brace stands for itself. -/
def bounds : Reading (Option (Nat × Nat)) := do
  let start ← get
  let many := start.rest.length + 1
  if (← next) == some ['\x7d'] then return none
  let lo ← takeWhile Char.isDigit many
  let hi ← if ← accept ',' then takeWhile Char.isDigit many else pure lo
  if !(← accept '\x7d') then
    modify fun s => { s with rest := start.rest, pos := start.pos }
    return none
  let least := numberOf 10 lo
  let most := if hi.isEmpty then unbounded else numberOf 10 hi
  if !lo.isEmpty && least ≥ unbounded then throw ⟨.repeatTooLarge, none⟩
  if !hi.isEmpty && most ≥ unbounded then throw ⟨.repeatTooLarge, none⟩
  if most < least then failAt start.pos .repeatOrder
  return some (least, most)

/-- What a repetition mark asks for; none when the mark stands for itself. -/
def repetition (c : Char) : Reading (Option (Nat × Nat)) :=
  if c == '?' then return some (0, 1)
  else if c == '*' then return some (0, unbounded)
  else if c == '+' then return some (1, unbounded)
  else bounds

/-- Repeat the pattern read last. `mark` is the position of the repetition mark. -/
def repeated (mark least most : Nat) (so : List Node) : Reading (List Node) := do
  match so with
  | [] => failAt mark .nothingToRepeat
  | .anchor .. :: _ => failAt mark .nothingToRepeat
  | .loop .. :: _ => failAt mark .multipleRepeat
  | body :: before =>
    let greed : Greed ← if ← accept '?' then pure .lazy
      else if ← accept '+' then pure .possessive
      else pure .greedy
    return .loop least most greed body :: before

/-! ## Flags -/

/-- Flags that are turned on or off together. -/
structure FlagSet where
  flags : Flags := {}
  unicode : Bool := false
  template : Bool := false
  deriving DecidableEq

/-- Add a flag by its letter; none when the letter stands for no flag. -/
def FlagSet.add (s : FlagSet) (c : Char) : Option FlagSet :=
  if c == 'i' then some { s with flags := { s.flags with ignoreCase := true } }
  else if c == 'm' then some { s with flags := { s.flags with multiLine := true } }
  else if c == 's' then some { s with flags := { s.flags with dotAll := true } }
  else if c == 'x' then some { s with flags := { s.flags with verbose := true } }
  else if c == 'a' then some { s with flags := { s.flags with ascii := true } }
  else if c == 'u' then some { s with unicode := true }
  else if c == 't' then some { s with template := true }
  else none

/-- Whether two sets of flags have one in common. -/
def FlagSet.meets (a b : FlagSet) : Bool :=
  (a.flags.ignoreCase && b.flags.ignoreCase) || (a.flags.multiLine && b.flags.multiLine) ||
    (a.flags.dotAll && b.flags.dotAll) || (a.flags.verbose && b.flags.verbose)

/-- The flags inside a group that turns some on and some off. -/
def Flags.change (f : Flags) (on off : FlagSet) : Flags where
  ignoreCase := (f.ignoreCase || on.flags.ignoreCase) && !off.flags.ignoreCase
  multiLine := (f.multiLine || on.flags.multiLine) && !off.flags.multiLine
  dotAll := (f.dotAll || on.flags.dotAll) && !off.flags.dotAll
  verbose := (f.verbose || on.flags.verbose) && !off.flags.verbose
  ascii := (f.ascii && !on.unicode) || on.flags.ascii

/-- Whether a token is a letter of any script. -/
def isAlphabetic (t : List Char) : Bool := !t.isEmpty && t.all Text.isLetter

/-- The letter of a flag. -/
def flagLetter (t : List Char) : Option Char :=
  match t with
  | [c] => if "imsxautL".toList.contains c then some c else none
  | _ => none

/-- Read letters of flags that are turned on, up to the mark after them. -/
def flagsOn (c : Char) (so : FlagSet) : Nat → Reading (FlagSet × Char)
  | 0 => failBack 0 (.missing "-, : or )")
  | n + 1 => do
    if c == 'L' then failBack 0 (.badFlags "cannot use 'L' flag with a str pattern")
    let on := (so.add c).getD so
    if (c == 'a' && on.unicode) || (c == 'u' && on.flags.ascii) then
      failBack 0 (.badFlags "flags 'a', 'u' and 'L' are incompatible")
    match ← take with
    | none => failBack 0 (.missing "-, : or )")
    | some t =>
      match t, flagLetter t with
      | [')'], _ => return (on, ')')
      | ['-'], _ => return (on, '-')
      | [':'], _ => return (on, ':')
      | _, some d => flagsOn d on n
      | _, none =>
        failBack t.length (if isAlphabetic t then .unknownFlag else .missing "-, : or )")

/-- Read letters of flags that are turned off, up to the colon after them. -/
def flagsOff (c : Char) (so : FlagSet) : Nat → Reading FlagSet
  | 0 => failBack 0 (.missing ":")
  | n + 1 => do
    if c == 'a' || c == 'u' || c == 'L' then
      failBack 0 (.badFlags "cannot turn off flags 'a', 'u' and 'L'")
    let off := (so.add c).getD so
    match ← take with
    | none => failBack 0 (.missing ":")
    | some t =>
      match t, flagLetter t with
      | [':'], _ => return off
      | _, some d => flagsOff d off n
      | _, none =>
        failBack t.length (if isAlphabetic t then .unknownFlag else .missing ":")

/-- Read flags from their first letter or minus sign on. The result is none for flags of the whole
pattern, which are noted. -/
def readFlags (c : Char) : Reading (Option (FlagSet × FlagSet)) := do
  let many := (← get).rest.length + 2
  let (on, mark) ← if c == '-' then pure ({}, '-') else flagsOn c {} many
  if mark == ')' then
    modify fun s =>
      { s with flags := s.flags.change { on with unicode := false } {},
               unicode := s.unicode || on.unicode }
    return none
  if on.template then failBack 1 (.badFlags "cannot turn on global flag")
  let off ← if mark == ':' then pure {} else do
    match ← take with
    | none => failBack 0 (.missing "flag")
    | some t =>
      match flagLetter t with
      | some d => flagsOff d {} many
      | none => failBack t.length (if isAlphabetic t then .unknownFlag else .missing "flag")
  if off.template then failBack 1 (.badFlags "cannot turn off global flag")
  if on.meets off then failBack 1 (.badFlags "flag turned on and off")
  return some (on, off)

/-! ## Groups -/

/-- Check a name of a group. -/
def checkName (name : List Char) : Reading Unit := do
  if !Text.isIdentifier name then failBack (name.length + 1) (.badGroupName name)

/-- Open a group. -/
def openGroup (name : Option (List Char)) : Reading Nat := do
  let s ← get
  let index := s.widths.size
  match name with
  | none => set { s with widths := s.widths.push none }
  | some n =>
    match s.names.lookup n with
    | some before =>
      set { s with widths := s.widths.push none }
      failBack (n.length + 1) (.redefined n index before)
    | none => set { s with widths := s.widths.push none, names := (n, index) :: s.names }
  return index

/-- The widths of the groups that are closed. -/
def Progress.groupWidth (s : Progress) (index : Nat) : Nat × Nat :=
  ((s.widths[index]?).join).getD (0, 0)

/-- Close a group that has been read. -/
def closeGroup (index : Nat) (body : Node) : Reading Unit :=
  modify fun s =>
    { s with widths := s.widths.setIfInBounds index (some (body.width s.groupWidth)) }

/-- Skip a comment, up to its closing parenthesis. -/
def skipComment (opening : Nat) : Nat → Reading Unit
  | 0 => failAt opening .unterminatedComment
  | n + 1 => do
    match ← next with
    | none => failAt opening .unterminatedComment
    | some t =>
      advance
      if t == [')'] then return () else skipComment opening n

/-- A reference to a group by its name. -/
def namedReference (flags : Flags) : Reading Node := do
  let name ← takeName ')' "group name"
  checkName name
  match (← get).names.lookup name with
  | none => failBack (name.length + 1) (.unknownGroup name)
  | some index =>
    if !(← isClosed index) then failBack (name.length + 1) .openGroup
    checkBehind index
    return .again index flags

/-- The group that a condition names. -/
def conditionGroup : Reading Nat := do
  let name ← takeName ')' "group name"
  let back := name.length + 1
  if Text.isIdentifier name then
    match (← get).names.lookup name with
    | none => failBack back (.unknownGroup name)
    | some index => return index
  else
    match Number.readInteger 10 name with
    | .ok (some i) =>
      if i < 0 then failBack back (.badGroupName name)
      if i == 0 then failBack back .badGroupNumber
      if i.toNat ≥ unbounded / 4 then failBack back (.badReference i.toNat)
      modify fun s =>
        if (s.named.lookup i.toNat).isSome then s
        else { s with named := s.named ++ [(i.toNat, s.pos - back)] }
      return i.toNat
    | _ => failBack back (.badGroupName name)

/-- What a group turns out to be after its opening parenthesis and question mark. -/
inductive Opening where
  | captured (name : Option (List Char))
  | plain (flags : Flags)
  | atomic
  | look (behind negated : Bool)
  | condition
  | reference (n : Node)
  | comment
  | wholeFlags

/-- Read what a group is. `opening` is the position of its parenthesis. -/
def readOpening (flags : Flags) (opening : Nat) : Reading Opening := do
  if !(← accept '?') then return .captured none
  match ← take with
  | none => failBack 0 .endOfPattern
  | some t =>
    match t with
    | ['P'] =>
      if ← accept '<' then
        let name ← takeName '>' "group name"
        checkName name
        return .captured (some name)
      else if ← accept '=' then return .reference (← namedReference flags)
      else
        match ← take with
        | none => failBack 0 .endOfPattern
        | some u => failBack (u.length + 2) (.unknownExtension (['?', 'P'] ++ u))
    | [':'] => return .plain flags
    | ['#'] =>
      skipComment opening ((← get).rest.length + 1)
      return .comment
    | ['='] => return .look false false
    | ['!'] => return .look false true
    | ['<'] =>
      match ← take with
      | none => failBack 0 .endOfPattern
      | some u =>
        if u == ['='] then return .look true false
        else if u == ['!'] then return .look true true
        else failBack (u.length + 2) (.unknownExtension (['?', '<'] ++ u))
    | ['('] => return .condition
    | ['>'] => return .atomic
    | _ =>
      match t, flagLetter t with
      | ['-'], _ => ofFlags '-'
      | _, some c => ofFlags c
      | _, none => failBack (t.length + 1) (.unknownExtension ('?' :: t))
where
  /-- A group that turns flags on and off, or flags of the whole pattern. -/
  ofFlags (c : Char) : Reading Opening := do
    match ← readFlags c with
    | some (on, off) => return .plain (flags.change on off)
    | none => return .wholeFlags

/-- The closing parenthesis of a group. -/
def closing (opening : Nat) : Reading Unit := do
  if !(← accept ')') then failAt opening .unterminatedGroup

/-! ## Sequences and alternatives -/

/-- The characters that are skipped between the parts of a verbose pattern. -/
def isSkipped (c : Char) : Bool := c == ' ' || ('\t' ≤ c && c ≤ '\r')

/-- Skip a comment of a verbose pattern, up to the end of its line. -/
def skipLine : Nat → Reading Unit
  | 0 => return ()
  | n + 1 => do
    match ← take with
    | none => return ()
    | some t => if t == ['\n'] then return () else skipLine n

/-- A pattern of several parts. -/
def sequenceOf : List Node → Node
  | [n] => n
  | ns => .sequence ns

mutual

/-- Alternatives. At the top the flags of the whole pattern hold. -/
def alternatives (flags : Flags) (top : Bool) : Nat → Reading Node
  | 0 => failBack 0 .endOfPattern
  | fuel + 1 => do
    let first ← parts flags top [] fuel
    let rest ← moreAlternatives flags top fuel
    if rest.isEmpty then return first else return .choice (first :: rest)

/-- The alternatives after the first. -/
def moreAlternatives (flags : Flags) (top : Bool) : Nat → Reading (List Node)
  | 0 => return []
  | fuel + 1 => do
    if !(← accept '|') then return []
    let whole ← get
    let flags := if top then whole.flags else flags
    let n ← parts flags false [] fuel
    return n :: (← moreAlternatives flags top fuel)

/-- The parts of a sequence. `first` tells that flags of the whole pattern may stand here, and `so`
are the parts read so far, the last one first. -/
def parts (flags : Flags) (first : Bool) (so : List Node) : Nat → Reading Node
  | 0 => failBack 0 .endOfPattern
  | fuel + 1 => do
    let start := (← get).pos
    let add (n : Node) : Reading Node := parts flags first (n :: so) fuel
    let literal (c : Char) : Reading Node := add (.one false [.char c.toNat] flags)
    match ← next with
    | none => return sequenceOf so.reverse
    | some ['|'] => return sequenceOf so.reverse
    | some [')'] => return sequenceOf so.reverse
    | some ['\\', c] => do
      advance
      add (← escape flags c)
    | some (c :: _) => do
      advance
      if flags.verbose && isSkipped c then parts flags first so fuel
      else if flags.verbose && c == '#' then do
        skipLine ((← get).rest.length + 1)
        parts flags first so fuel
      else if c == '[' then do add (← classNode flags)
      else if c == '*' || c == '+' || c == '?' || c == '\x7b' then do
        match ← repetition c with
        | none => literal c
        | some (least, most) => do parts flags first (← repeated start least most so) fuel
      else if c == '.' then add (.any flags.dotAll)
      else if c == '^' then
        add (.anchor (if flags.multiLine then .lineStart else .textStart) flags.ascii)
      else if c == '$' then
        add (.anchor (if flags.multiLine then .lineEnd else .lastLineEnd) flags.ascii)
      else if c == '(' then do
        match ← readOpening flags start with
        | .comment => parts flags first so fuel
        | .reference n => add n
        | .wholeFlags => do
          if !first || !so.isEmpty then failAt start .globalFlags
          let whole ← get
          parts whole.flags first so fuel
        | .captured name => do
          let index ← openGroup name
          let body ← alternatives flags false fuel
          closing start
          closeGroup index body
          add (.group (some index) body)
        | .plain inner => do
          let body ← alternatives inner false fuel
          closing start
          add (.group none body)
        | .atomic => do
          let body ← alternatives flags false fuel
          closing start
          add (.atomic body)
        | .look behind negated => do
          let before := (← get).behind
          if behind && before.isNone then modify fun s => { s with behind := some s.widths.size }
          let body ← alternatives flags false fuel
          if behind && before.isNone then modify fun s => { s with behind := none }
          closing start
          add (.look behind negated body)
        | .condition => do
          let index ← conditionGroup
          checkBehind index
          let yes ← parts flags false [] fuel
          let no ← if ← accept '|' then do
              let no ← parts flags false [] fuel
              if (← next) == some ['|'] then failBack 0 .tooManyBranches
              pure no
            else pure (.sequence [])
          closing start
          add (.conditional index yes no)
      else literal c
    | some [] => return sequenceOf so.reverse

end

/-- Read a whole pattern. -/
def readWhole (fuel : Nat) : Reading Node := do
  checkEnd
  let node ← alternatives {} true fuel
  let s ← get
  if s.flags.ascii && s.unicode then throw ⟨.bothAlphabets, none⟩
  if !s.rest.isEmpty then failBack 0 .unbalanced
  if let some (index, position) := s.named.find? fun (index, _) => index ≥ s.widths.size then
    failAt position (.badReference index)
  if !node.looksBehindWell s.groupWidth then throw ⟨.widthBehind, none⟩
  return node

end Stencil.Pattern

namespace Stencil.Pattern

/-- Read a pattern from its text. -/
def ofText (s : List Char) : Except Failure Pattern :=
  match readWhole (2 * s.length + 4) |>.run { rest := s } with
  | .ok node p => .ok ⟨node, p.widths.size - 1, p.groupWidth⟩
  | .error f _ => .error (f.failure s)

end Stencil.Pattern
