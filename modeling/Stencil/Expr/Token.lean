import Stencil.Expr.GrammarFault
import Stencil.Text.Identifier
import Stencil.Text.Letter
/-!
# Stencil.Expr.Token -- the tokens of a program text

A program text is cut into names, numbers, texts and marks. Line ends count only outside brackets,
and so does the indentation of a line, which opens and closes blocks. A text that cannot be cut up
to its end keeps the tokens before the place where that fails, since whoever reads them may object
to one of them first.
-/

namespace Stencil.Expr

open Stencil.Text

/-- The kinds of tokens. -/
inductive TokenKind where
  | name | number | text | mark | newline | indent | dedent | finish
  deriving DecidableEq, Repr, Inhabited

/-- A token as it is spelled, the line on which it starts, and the number of brackets that are open
after it. -/
structure Token where
  kind : TokenKind
  spelling : String
  line : Nat
  depth : Nat
  deriving Inhabited, Repr

/-- How a sequence of tokens ends. -/
inductive TokenEnd where
  | complete
  /-- At characters that make no token. -/
  | broken (f : GrammarFault)
  /-- At a line that cannot be laid out, or at the end of the text while brackets are open; the
  innermost of these is given with its line. -/
  | stuck (f : GrammarFault) (opened : Option (Char × Nat))
  deriving Repr, Inhabited

/-- The tokens of a text. -/
structure Tokens where
  items : Array Token
  ending : TokenEnd
  deriving Inhabited

/-! ## Characters -/

/-- Whether a character may stand in a name, or has to be looked at more closely. -/
def mayBeName (c : Char) : Bool :=
  c == '_' || ('a' ≤ c && c ≤ 'z') || ('A' ≤ c && c ≤ 'Z') || c.isDigit || c.toNat ≥ 128

/-- The cause of a character that cannot stand where it stands. -/
def strayCharacter (c : Char) : GrammarCause :=
  if isPrintable c then .badCharacter c else .hiddenCharacter c

/-- The first character of a name that may not stand there. -/
def strayInName : List Char → Option Char
  | [] => none
  | c :: r =>
    if startsIdentifier c then r.find? (fun d => !continuesIdentifier d) else some c

/-- One kind of line end, and one at the end. -/
def unifyLines : List Char → List Char
  | [] => ['\n']
  | ['\n'] => ['\n']
  | ['\r'] => ['\n']
  | ['\r', '\n'] => ['\n']
  | '\r' :: '\n' :: r => '\n' :: unifyLines r
  | '\r' :: r => '\n' :: unifyLines r
  | c :: r => c :: unifyLines r

/-! ## Numbers -/

/-- Digits with single underscores between them. -/
structure DigitRun where
  taken : List Char
  rest : List Char
  /-- Whether an underscore has no digit after it; the rest starts behind it. -/
  isBroken : Bool

/-- Put a character in front of a run. -/
def DigitRun.cons (c : Char) (d : DigitRun) : DigitRun := { d with taken := c :: d.taken }

/-- The run of digits at the start of a text. -/
def digitRun (ok : Char → Bool) : List Char → DigitRun
  | [] => ⟨[], [], false⟩
  | '_' :: d :: r => if ok d then (digitRun ok (d :: r)).cons '_' else ⟨['_'], d :: r, true⟩
  | ['_'] => ⟨['_'], [], true⟩
  | c :: r => if ok c then (digitRun ok r).cons c else ⟨[], c :: r, false⟩

/-- The words that may follow a number without a space. -/
def wordsAfterNumber : List (List Char) :=
  ["and".toList, "else".toList, "for".toList, "or".toList, "not".toList]

/-- Whether a word may follow a number here without a space. -/
def startsWordAfterNumber (s : List Char) : Bool :=
  let word := s.takeWhile mayBeName
  wordsAfterNumber.contains word ||
    (match word with
      | 'i' :: c :: _ => c == 'f' || c == 'n' || c == 's'
      | _ => false)

/-- Check that a number of a kind ends here. -/
def numberEnds (kind : String) (s : List Char) : Except GrammarCause Unit :=
  match s with
  | [] => .ok ()
  | c :: _ =>
    if startsWordAfterNumber s || !mayBeName c then .ok () else .error (.badNumber kind)

/-- A number in another base, after its two first characters. -/
def basedNumber (kind : String) (ok : Char → Bool) (s : List Char) :
    Except GrammarCause (List Char × List Char) := do
  let stray (r : List Char) : GrammarCause :=
    match r with
    | c :: _ => if kind != "hexadecimal" && c.isDigit then .badDigit c kind else .badNumber kind
    | [] => .badNumber kind
  let digits := match s with
    | '_' :: d :: r => if ok d then (digitRun ok (d :: r)).cons '_' else ⟨['_'], d :: r, true⟩
    | _ => digitRun ok s
  if digits.isBroken || !(digits.taken.any ok) then throw (stray digits.rest)
  match digits.rest with
  | c :: _ =>
    if kind != "hexadecimal" && c.isDigit then throw (.badDigit c kind)
    else numberEnds kind digits.rest
  | [] => pure ()
  return (digits.taken, digits.rest)

/-- A run of decimal digits that is not broken. -/
def decimalRun (s : List Char) : Except GrammarCause (List Char × List Char) :=
  let d := digitRun Char.isDigit s
  if d.isBroken then .error (.badNumber "decimal") else .ok (d.taken, d.rest)

/-- What follows the digits of a decimal number and its point: an exponent and the mark of an
imaginary number. `whole` tells that only digits have been read and `zeros` that they may not stand
alone because they start with a zero. -/
def numberTail (whole zeros : Bool) (s : List Char) :
    Except GrammarCause (List Char × List Char) := do
  let (exponent, rest) ← match s with
    | e :: r =>
      if e == 'e' || e == 'E' then
        match r with
        | sign :: d :: r' =>
          if sign == '+' || sign == '-' then
            if d.isDigit then do
              let (ds, rest) ← decimalRun (d :: r')
              pure (e :: sign :: ds, rest)
            else throw (.badNumber "decimal")
          else if sign.isDigit then do
            let (ds, rest) ← decimalRun r
            pure (e :: ds, rest)
          else pure ([], s)
        | [sign] =>
          if sign == '+' || sign == '-' then throw (.badNumber "decimal")
          else if sign.isDigit then pure ([e, sign], [])
          else pure ([], s)
        | [] => pure ([], s)
      else pure ([], s)
    | [] => pure ([], s)
  match rest with
  | j :: r =>
    if j == 'j' || j == 'J' then
      numberEnds "imaginary" r
      return (exponent ++ [j], r)
    else if whole && zeros && exponent.isEmpty && !(j == 'e' || j == 'E') then
      throw .leadingZeros
    else
      numberEnds "decimal" rest
      return (exponent, rest)
  | [] =>
    if whole && zeros && exponent.isEmpty then throw .leadingZeros
    return (exponent, [])

/-- A decimal number whose digits come first. -/
def decimalNumber (s : List Char) : Except GrammarCause (List Char × List Char) := do
  let (ds, rest) ← decimalRun s
  let zeros := ds.head? == some '0' && ds.any (fun c => c != '0' && c != '_')
  match rest with
  | '.' :: d :: r =>
    let (fraction, rest) ← if d.isDigit then decimalRun (d :: r) else pure ([], d :: r)
    let (tail, rest) ← numberTail false zeros rest
    return (ds ++ '.' :: fraction ++ tail, rest)
  | ['.'] => return (ds ++ ['.'], [])
  | _ =>
    let (tail, rest) ← numberTail true zeros rest
    return (ds ++ tail, rest)

/-- A number that starts with a digit, or with a point before a digit. -/
def numberAt (s : List Char) : Except GrammarCause (List Char × List Char) := do
  match s with
  | '.' :: r =>
    let (ds, rest) ← decimalRun r
    let (tail, rest) ← numberTail false false rest
    return ('.' :: ds ++ tail, rest)
  | '0' :: x :: r =>
    let based ← match x with
      | 'x' | 'X' => pure (some (← basedNumber "hexadecimal"
          (fun c => c.isDigit || ('a' ≤ c && c ≤ 'f') || ('A' ≤ c && c ≤ 'F')) r))
      | 'o' | 'O' => pure (some (← basedNumber "octal" (fun c => '0' ≤ c && c ≤ '7') r))
      | 'b' | 'B' => pure (some (← basedNumber "binary" (fun c => c == '0' || c == '1') r))
      | _ => pure none
    match based with
    | some (ds, rest) => return ('0' :: x :: ds, rest)
    | none => decimalNumber s
  | _ => decimalNumber s

/-! ## Texts -/

/-- A text between quotes: what was taken, what is left and the line on which it ends. -/
structure QuotedRun where
  taken : List Char
  rest : List Char
  line : Nat

/-- Put characters in front of a text. -/
def QuotedRun.append (cs : List Char) (q : QuotedRun) : QuotedRun :=
  { q with taken := cs ++ q.taken }

/-- The line after a line end: the end of the text is not on a line of its own. -/
def lineAfter (line : Nat) (rest : List Char) : Nat := if rest.isEmpty then line else line + 1

/-- The rest of a text on one line, up to its quote; otherwise the line on which it is cut off. -/
def shortQuoted (quote : Char) (line : Nat) : List Char → Except Nat QuotedRun
  | [] => .error line
  | '\\' :: c :: r =>
    let line' := if c == '\n' then lineAfter line r else line
    (shortQuoted quote line' r).map (QuotedRun.append ['\\', c])
  | c :: r =>
    if c == quote then .ok ⟨[c], r, line⟩
    else if c == '\n' then .error line
    else (shortQuoted quote line r).map (QuotedRun.append [c])

/-- The rest of a text on several lines, up to three quotes; `seen` of these stand just before. -/
def longQuoted (quote : Char) (line seen : Nat) : List Char → Except Nat QuotedRun
  | [] => .error line
  | '\\' :: c :: r =>
    let line' := if c == '\n' then lineAfter line r else line
    (longQuoted quote line' 0 r).map (QuotedRun.append ['\\', c])
  | c :: r =>
    if c == quote then
      if seen == 2 then .ok ⟨[c], r, line⟩
      else (longQuoted quote line (seen + 1) r).map (QuotedRun.append [c])
    else
      let line' := if c == '\n' then lineAfter line r else line
      (longQuoted quote line' 0 r).map (QuotedRun.append [c])

/-- A text from its first quote on. -/
def quotedAt (line : Nat) (s : List Char) : Except GrammarFault QuotedRun :=
  match s with
  | q :: c :: d :: r =>
    if c == q then
      if d == q then
        match longQuoted q line 0 r with
        | .ok run => .ok (run.append [q, q, q])
        | .error n => .error ⟨.unterminatedLongText n, line⟩
      else .ok ⟨[q, q], d :: r, line⟩
    else short q (c :: d :: r)
  | [q, c] => if c == q then .ok ⟨[q, q], [], line⟩ else short q [c]
  | [q] => short q []
  | [] => .error ⟨.unterminatedText line, line⟩
where
  /-- A text on one line. -/
  short (q : Char) (r : List Char) : Except GrammarFault QuotedRun :=
    match shortQuoted q line r with
    | .ok run => .ok (run.append [q])
    | .error n => .error ⟨.unterminatedText n, line⟩

/-- The marks that may stand before the first quote of a text. -/
def textMarks : List String := ["", "b", "r", "u", "f", "br", "rb", "fr", "rf"]

/-- The marks before a text and the text from its first quote on, if a text starts here. -/
def textStart? (s : List Char) : Option (List Char × List Char) :=
  let marks := (s.take 3).takeWhile (fun c => c != '"' && c != '\x27')
  let rest := s.drop marks.length
  let quoteFollows := match rest with
    | q :: _ => q == '"' || q == '\x27'
    | [] => false
  if quoteFollows && textMarks.contains (String.ofList (marks.map Char.toLower)) then
    some (marks, rest)
  else none

/-! ## Marks -/

/-- The marks of several characters, longer ones first. -/
def longMarks : List (List Char) :=
  ["**=".toList, "//=".toList, ">>=".toList, "<<=".toList, "...".toList,
   "!=".toList, "%=".toList, "&=".toList, "**".toList, "*=".toList, "+=".toList, "-=".toList,
   "->".toList, "//".toList, "/=".toList, ":=".toList, "<<".toList, "<=".toList, "<>".toList,
   "==".toList, ">=".toList, ">>".toList, "@=".toList, "^=".toList, "|=".toList]

/-- The longest mark at the start of a text. -/
def markAt (s : List Char) : List Char :=
  match longMarks.find? (·.isPrefixOf s) with
  | some m => m
  | none => s.take 1

/-- The closing bracket of an opening one. -/
def closingOf? (c : Char) : Option Char :=
  if c == '(' then some ')'
  else if c == '[' then some ']'
  else if c == '\x7b' then some '\x7d'
  else none

/-- How many brackets may be open at once. -/
def bracketLimit : Nat := 200

/-- How many blocks may be open at once. -/
def indentLimit : Nat := 99

/-! ## Cutting a text -/

/-- A text that is being cut: what is left, the line, the open brackets and the open blocks from the
innermost on, and whether a line starts here. A block is known by the column at which its lines
start, counted with tab stops and with tabs as single characters. -/
structure Cut where
  rest : List Char
  line : Nat := 1
  brackets : List (Char × Nat) := []
  blocks : List (Nat × Nat) := [(0, 0)]
  atLineStart : Bool := true
  tokens : Array Token := #[]

namespace Cut

/-- Add a token. -/
def push (c : Cut) (kind : TokenKind) (spelling : List Char) : Cut :=
  { c with tokens := c.tokens.push ⟨kind, String.ofList spelling, c.line, c.brackets.length⟩ }

/-- Go on after some characters. -/
def goOn (c : Cut) (rest : List Char) : Cut := { c with rest := rest, atLineStart := false }

/-- End with a fault of layout. -/
def stuck (c : Cut) (cause : GrammarCause) : TokenEnd := .stuck ⟨cause, c.line⟩ c.brackets.head?

/-- End with a fault of characters. -/
def broken (c : Cut) (cause : GrammarCause) : TokenEnd := .broken ⟨cause, c.line⟩

/-- The end of the text while more has to follow. -/
def cutOff (c : Cut) : TokenEnd :=
  match c.brackets with
  | (b, n) :: _ => .stuck ⟨.neverClosed b, n⟩ (some (b, n))
  | [] => c.stuck .ended

/-- Go on after a backslash, which joins two lines. -/
def joinLine (c : Cut) : Except TokenEnd Cut :=
  match c.rest with
  | ['\\', '\n'] => .error c.cutOff
  | '\\' :: '\n' :: r => .ok { c with rest := r, line := c.line + 1 }
  | _ => .error (c.stuck .afterContinuation)

/-- Skip the blanks at the start of a line and find its columns. When lines are joined there, the
column before the first backslash counts. -/
def indentation (c : Cut) (column narrow : Nat) (joined : Option Nat) :
    Nat → Except TokenEnd (Cut × Nat × Nat)
  | 0 => .ok (c, column, narrow)
  | fuel + 1 =>
    match c.rest with
    | ' ' :: r => indentation { c with rest := r } (column + 1) (narrow + 1) joined fuel
    | '\t' :: r =>
      indentation { c with rest := r } ((column / 8 + 1) * 8) (narrow + 1) joined fuel
    | '\x0c' :: r => indentation { c with rest := r } 0 0 joined fuel
    | '\\' :: _ => do
      let c' ← c.joinLine
      let mark := match joined with
        | some (n + 1) => n + 1
        | _ => column
      indentation c' column narrow (some mark) fuel
    | _ =>
      match joined with
      | some (n + 1) => .ok (c, n + 1, n + 1)
      | _ => .ok (c, column, narrow)

/-- Close the blocks whose lines start further to the right. -/
def closeBlocks (c : Cut) (column : Nat) : List (Nat × Nat) → Cut
  | (b, n) :: (b', n') :: r =>
    if column < b then ({ c with blocks := (b', n') :: r }.push .dedent []).closeBlocks column
      ((b', n') :: r)
    else { c with blocks := (b, n) :: (b', n') :: r }
  | bs => { c with blocks := bs }

/-- Open or close blocks at the start of a line. -/
def layOut (c : Cut) (column narrow : Nat) : Except TokenEnd Cut :=
  let (b, n) := c.blocks.headD (0, 0)
  if column == b then
    if narrow == n then .ok c else .error (c.stuck .mixedIndentation)
  else if column > b then
    if c.blocks.length > indentLimit then .error (c.stuck .indentedTooDeep)
    else if narrow ≤ n then .error (c.stuck .mixedIndentation)
    else .ok ({ c with blocks := (column, narrow) :: c.blocks }.push .indent [])
  else
    let c' := c.closeBlocks column c.blocks
    let (b, n) := c'.blocks.headD (0, 0)
    if column != b then .error (c.stuck .dedentMismatch)
    else if narrow != n then .error (c.stuck .mixedIndentation)
    else .ok c'

/-- Start a line. A line without tokens is skipped and opens or closes no block. -/
def startLine (c : Cut) : Except TokenEnd Cut := do
  let (c, column, narrow) ← c.indentation 0 0 none (c.rest.length + 1)
  match c.rest with
  | '\n' :: r => return { c with rest := r, line := lineAfter c.line r }
  | '#' :: r =>
    let r := (r.dropWhile (· != '\n')).drop 1
    return { c with rest := r, line := lineAfter c.line r }
  | _ =>
    let c ← if c.brackets.isEmpty then c.layOut column narrow else pure c
    return { c with atLineStart := false }

/-- Take a name. -/
def takeName (c : Cut) : Except TokenEnd Cut :=
  let name := c.rest.takeWhile mayBeName
  match if name.any (·.toNat ≥ 128) then strayInName name else none with
  | some d => .error (c.broken (strayCharacter d))
  | none => .ok ((c.push .name name).goOn (c.rest.dropWhile mayBeName))

/-- Take a mark. -/
def takeMark (c : Cut) (m : Char) : Except TokenEnd Cut :=
  let mark := markAt c.rest
  let rest := c.rest.drop mark.length
  if mark.length > 1 then .ok ((c.push .mark mark).goOn rest)
  else if (closingOf? m).isSome then
    if c.brackets.length ≥ bracketLimit then .error (c.broken .nestedTooDeep)
    else .ok (({ c with brackets := (m, c.line) :: c.brackets }.push .mark mark).goOn rest)
  else if m == ')' || m == ']' || m == '\x7d' then
    match c.brackets with
    | [] => .error (c.broken (.unmatched m))
    | (b, n) :: outer =>
      if closingOf? b == some m then
        .ok (({ c with brackets := outer }.push .mark mark).goOn rest)
      else .error (c.broken (.mismatched m b (if n == c.line then none else some n)))
  else if !isPrintable m then .error (c.broken (.hiddenCharacter m))
  else .ok ((c.push .mark mark).goOn rest)

/-- Take one token within a line. -/
def takeToken (c : Cut) : Except TokenEnd Cut := do
  let r := c.rest.dropWhile (fun d => d == ' ' || d == '\t' || d == '\x0c')
  let r := if r.head? == some '#' then r.dropWhile (· != '\n') else r
  let c := { c with rest := r }
  match r with
  | [] => throw (if c.brackets.isEmpty then .complete else c.cutOff)
  | '\n' :: r' =>
    let c' := if c.brackets.isEmpty then c.push .newline [] else c
    return { c' with rest := r', line := lineAfter c.line r', atLineStart := true }
  | '\\' :: _ => c.joinLine
  | d :: r' =>
    match textStart? r with
    | some (marks, quoted) =>
      match quotedAt c.line quoted with
      | .ok run => return { (c.push .text (marks ++ run.taken)).goOn run.rest with line := run.line }
      | .error f => throw (.broken f)
    | none =>
      if d.isDigit || (d == '.' && (r'.head?.any Char.isDigit)) then
        match numberAt r with
        | .ok (spelling, rest) => return (c.push .number spelling).goOn rest
        | .error cause => throw (c.broken cause)
      else if mayBeName d then c.takeName
      else c.takeMark d

/-- Cut a text to its end; each line start and each token is one step. -/
def run (c : Cut) : Nat → Tokens
  | 0 => ⟨c.tokens, .complete⟩
  | fuel + 1 =>
    match if c.atLineStart then c.startLine else c.takeToken with
    | .ok c' => c'.run fuel
    | .error .complete => ⟨(c.push .finish []).tokens, .complete⟩
    | .error e => ⟨c.tokens, e⟩

end Cut

/-- The tokens of a text whose first line has a number. -/
def Tokens.ofText (line : Nat) (s : List Char) : Tokens :=
  let s := unifyLines s
  { rest := s, line : Cut }.run (2 * s.length + 3)

end Stencil.Expr
