import Stencil.Expr.Term
import Stencil.Expr.GrammarFault
import Stencil.Number.Integer
import Stencil.Number.Reading
import Stencil.Text.CharName
import Stencil.Text.Quoted
/-!
# Stencil.Expr.Literal -- what numbers and texts in a program stand for

Numbers are integers in one of four bases, doubles and imaginary numbers. Texts stand between
quotes; backslashes start escapes, unless the text is marked as raw. A text marked as formatted has
fields between braces: a term, maybe followed by the term's own spelling, a conversion and a format,
which again may have fields. Texts that follow each other are joined.
-/

namespace Stencil.Expr

open Stencil.Number

/-! ## Numbers -/

/-- The value of a number as it is spelled. -/
def numberValue (s : List Char) : Except GrammarCause Value :=
  let digits := s.filter (· != '_')
  let based := match digits with
    | '0' :: c :: _ => c.isAlpha && !(['e', 'E', 'j', 'J'].contains c)
    | _ => false
  let imaginary := digits.getLast? == some 'j' || digits.getLast? == some 'J'
  if !based && imaginary then .ok (.complex 0 ((readDouble digits.dropLast).getD 0))
  else if !based && digits.any (fun c => c == '.' || c == 'e' || c == 'E') then
    .ok (.float ((readDouble digits).getD 0))
  else
    match readInteger 0 s with
    | .ok i => .ok (.int (i.getD 0))
    | .error f => .error (.tooManyDigits f.message)

/-! ## Escapes -/

/-- The character that a letter after a backslash stands for. -/
def simpleEscape? (c : Char) : Option Char :=
  if c == '\\' || c == '\x27' || c == '"' then some c
  else if c == 'n' then some '\n'
  else if c == 't' then some '\t'
  else if c == 'r' then some '\r'
  else if c == 'b' then some '\x08'
  else if c == 'f' then some '\x0c'
  else if c == 'v' then some '\x0b'
  else if c == 'a' then some '\x07'
  else none

/-- Whether a character is an octal digit. -/
def isOctal (c : Char) : Bool := '0' ≤ c && c ≤ '7'

/-- The number written by digits of a base. -/
def digitsValue (base : Nat) (s : List Char) : Nat :=
  s.foldl (fun n c => n * base + (hexValue? c).getD 0) 0

/-- The room a character takes where positions in a text are told: characters beyond the first 128
count as escapes of ten characters. -/
def escapedWidth (c : Char) : Nat := if c.toNat < 128 then 1 else 10

/-- The room that characters take together. -/
def escapedLength (cs : List Char) : Nat := cs.foldl (fun n c => n + escapedWidth c) 0

/-- The cause of a bad escape from one position up to another. -/
def badTextEscape (start stop : Nat) (reason : String) : GrammarCause :=
  .badEscape ("(unicode error) 'unicodeescape' codec can't decode bytes in position " ++
    toString start ++ "-" ++ toString (stop - 1) ++ ": " ++ reason)

/-- A character by its code point; halves of pairs have no character of their own. -/
def charOfCode (n : Nat) : Char :=
  if 0xD800 ≤ n && n ≤ 0xDFFF then '\uFFFD' else Char.ofNat n

/-- The character of an escape that gives `count` hexadecimal digits, and the text after it. -/
def hexEscape (pos count : Nat) (reason : String) (r : List Char) :
    Except GrammarCause (Char × Nat) :=
  let ds := (r.take count).takeWhile (fun c => (hexValue? c).isSome)
  let n := digitsValue 16 ds
  if ds.length < count then .error (badTextEscape pos (pos + 2 + ds.length) reason)
  else if n > 0x10FFFF then
    .error (badTextEscape pos (pos + 2 + count) "illegal Unicode character")
  else .ok (charOfCode n, count)

/-- The character of an escape that gives its name, and how much of the text names it. -/
def nameEscape (pos : Nat) (r : List Char) : Except GrammarCause (Char × Nat) :=
  let malformed := "malformed \\N character escape"
  match r with
  | '\x7b' :: r' =>
    let name := r'.takeWhile (· != '\x7d')
    let stop := pos + 3 + escapedLength name
    if name.length == r'.length then .error (badTextEscape pos stop malformed)
    else if name.isEmpty then .error (badTextEscape pos (pos + 3) malformed)
    else
      match Text.charNamed? name with
      | some c => .ok (c, name.length + 2)
      | none => .error (badTextEscape pos (stop + 1) "unknown Unicode character name")
  | _ => .error (badTextEscape pos (pos + 2) malformed)

/-- The character of an escape after its backslash and letter, and how many characters it takes, or
none when the letter starts no escape. -/
def longEscape (pos : Nat) (c : Char) (r : List Char) :
    Except GrammarCause (Option (Char × Nat)) :=
  if isOctal c then
    let ds := (r.take 2).takeWhile isOctal
    .ok (some (charOfCode (digitsValue 8 (c :: ds)), ds.length))
  else if c == 'x' then (hexEscape pos 2 "truncated \\xXX escape" r).map some
  else if c == 'u' then (hexEscape pos 4 "truncated \\uXXXX escape" r).map some
  else if c == 'U' then (hexEscape pos 8 "truncated \\UXXXXXXXX escape" r).map some
  else if c == 'N' then (nameEscape pos r).map some
  else .ok none

/-- Replace the escapes of a text that starts at a position. -/
def unescape (pos : Nat) (s : List Char) : Except GrammarCause (List Char) :=
  match s with
  | [] => .ok []
  | ['\\'] => .ok ['\\']
  | '\\' :: '\n' :: r => unescape (pos + 2) r
  | '\\' :: c :: r =>
    match simpleEscape? c with
    | some d => (unescape (pos + 2) r).map (d :: ·)
    | none =>
      match longEscape pos c r with
      | .error e => .error e
      | .ok (some (d, n)) =>
        (unescape (pos + 2 + escapedLength (r.take n)) (r.drop n)).map (d :: ·)
      | .ok none =>
        let width := if c.toNat < 128 then 2 else 16
        (unescape (pos + width) r).map fun t => '\\' :: c :: t
  | c :: r => (unescape (pos + escapedWidth c) r).map (c :: ·)
termination_by s.length
decreasing_by all_goals (simp_all <;> omega)

/-- Replace the escapes of a text of bytes that starts at a position. -/
def unescapeBytes (pos : Nat) (s : List Char) : Except GrammarCause (List UInt8) :=
  match s with
  | [] => .ok []
  | '\\' :: '\n' :: r => unescapeBytes (pos + 2) r
  | '\\' :: 'x' :: r =>
    let ds := (r.take 2).takeWhile (fun c => (hexValue? c).isSome)
    if ds.length == 2 then
      (unescapeBytes (pos + 4) (r.drop 2)).map (UInt8.ofNat (digitsValue 16 ds) :: ·)
    else
      .error (.badEscape ("(value error) invalid \\x escape at position " ++
        toString (pos + ds.length)))
  | '\\' :: c :: r =>
    match simpleEscape? c with
    | some d => (unescapeBytes (pos + 2) r).map (UInt8.ofNat d.toNat :: ·)
    | none =>
      if isOctal c then
        let ds := (r.take 2).takeWhile isOctal
        (unescapeBytes (pos + 2 + ds.length) (r.drop ds.length)).map
          (UInt8.ofNat (digitsValue 8 (c :: ds)) :: ·)
      else (unescapeBytes (pos + 1) (c :: r)).map (UInt8.ofNat '\\'.toNat :: ·)
  | c :: r => (unescapeBytes (pos + 1) r).map (UInt8.ofNat c.toNat :: ·)
termination_by s.length
decreasing_by all_goals (simp_all <;> omega)

/-! ## Formatted texts -/

/-- A fault in a literal: one to be told of the place read last, or of a line; or one found while
the term of a field was read. -/
inductive LiteralFault where
  | cause (c : GrammarCause) (line : Option Nat)
  | within (f : GrammarFault)

/-- A piece of a formatted text. -/
inductive Piece where
  | text (s : List Char)
  | field (t : Term)

/-- Where the plain part of a formatted text ends. -/
inductive PlainStop where
  | finished
  /-- Behind a doubled brace. -/
  | doubled (rest : List Char)
  /-- Behind the brace that opens a field. -/
  | field (rest : List Char)
  /-- Before the brace that closes the field around it. -/
  | closed (rest : List Char)
  | stray

/-- Whether a character is a brace. -/
def isBrace (c : Char) : Bool := c == '\x7b' || c == '\x7d'

/-- What a brace does to the plain part of a formatted text. -/
def stopAtBrace (inFormat : Bool) (c : Char) (r : List Char) : List Char × PlainStop :=
  if inFormat then
    if c == '\x7b' then ([], .field r) else ([], .closed (c :: r))
  else if r.head? == some c then ([c], .doubled (r.drop 1))
  else if c == '\x7b' then ([], .field r)
  else ([], .stray)

/-- The plain part at the start of a formatted text. A format has no doubled braces. -/
def plainPart (raw inFormat : Bool) (s : List Char) : List Char × PlainStop :=
  let add (cs : List Char) (p : List Char × PlainStop) := (cs ++ p.1, p.2)
  match s with
  | [] => ([], .finished)
  | '\\' :: 'N' :: '\x7b' :: r =>
    if raw then add ['\\', 'N'] (stopAtBrace inFormat '\x7b' r)
    else
      let name := r.takeWhile (· != '\x7d')
      add ('\\' :: 'N' :: '\x7b' :: r.take (name.length + 1))
        (plainPart raw inFormat (r.drop (name.length + 1)))
  | '\\' :: 'N' :: c :: r =>
    if raw && isBrace c then add ['\\', 'N'] (stopAtBrace inFormat c r)
    else add ['\\', 'N', c] (plainPart raw inFormat r)
  | '\\' :: c :: r =>
    if isBrace c then add ['\\'] (stopAtBrace inFormat c r)
    else if raw then add ['\\'] (plainPart raw inFormat (c :: r))
    else add ['\\', c] (plainPart raw inFormat r)
  | c :: r =>
    if isBrace c then stopAtBrace inFormat c r else add [c] (plainPart raw inFormat r)
termination_by s.length
decreasing_by all_goals (simp_all <;> omega)

/-- The term of a field and the text that follows it. Brackets and quotes inside are matched, and
what they enclose does not end the term. `quote` is the open quote, with its number of marks. -/
def fieldTerm (stack : List Char) (quote : Option (Char × Nat)) (s : List Char) :
    Except GrammarCause (List Char × List Char) :=
  let add (cs : List Char) (p : Except GrammarCause (List Char × List Char)) :=
    p.map fun q => (cs ++ q.1, q.2)
  match s with
  | [] =>
    if quote.isSome then .error (.fstring "unterminated string")
    else
      match stack with
      | c :: _ => .error (.fstring ("unmatched '" ++ String.singleton c ++ "'"))
      | [] => .ok ([], [])
  | c :: r =>
    let tripled := match r with
      | d :: e :: _ => d == c && e == c
      | _ => false
    if c == '\\' then .error (.fstring "expression part cannot include a backslash")
    else if let some (q, n) := quote then
      if c == q && n == 3 && tripled then add [c, c, c] (fieldTerm stack none (r.drop 2))
      else if c == q && n == 1 then add [c] (fieldTerm stack none r)
      else add [c] (fieldTerm stack quote r)
    else if c == '"' || c == '\x27' then
      if tripled then add [c, c, c] (fieldTerm stack (some (c, 3)) (r.drop 2))
      else add [c] (fieldTerm stack (some (c, 1)) r)
    else if c == '(' || c == '[' || c == '\x7b' then
      if stack.length ≥ 200 then .error (.fstring "too many nested parenthesis")
      else add [c] (fieldTerm (c :: stack) none r)
    else if c == '#' then .error (.fstring "expression part cannot include '#'")
    else if stack.isEmpty && ['!', ':', '\x7d', '=', '<', '>'].contains c then
      if r.head? == some '=' && (c == '!' || c == '=' || c == '<' || c == '>') then
        add [c, '='] (fieldTerm stack none (r.drop 1))
      else if c == '<' || c == '>' then add [c] (fieldTerm stack none r)
      else .ok ([], c :: r)
    else if c == ')' || c == ']' || c == '\x7d' then
      match stack with
      | [] => .error (.fstring ("unmatched '" ++ String.singleton c ++ "'"))
      | b :: outer =>
        if (b == '(' && c == ')') || (b == '[' && c == ']') || (b == '\x7b' && c == '\x7d') then
          add [c] (fieldTerm outer none r)
        else
          .error (.fstring ("closing parenthesis '" ++ String.singleton c ++
            "' does not match opening parenthesis '" ++ String.singleton b ++ "'"))
    else add [c] (fieldTerm stack none r)
termination_by s.length
decreasing_by all_goals (simp only [List.length_cons, List.length_drop]; omega)

/-- The number of line ends in a text. -/
def lineEnds (s : List Char) : Nat := s.count '\n'

/-- The cause of a field that is not closed. -/
def fieldOpen : LiteralFault := .cause (.fstring "expecting '\x7d'") none

/-- The conversion of a field: the text after it. -/
def conversionEnd (r : List Char) : Except LiteralFault (List Char) :=
  let wanted := "expected 's', 'r', or 'a'"
  let name := r.takeWhile (fun c => c != '\x7d' && c != ':')
  if name.length == r.length then .error fieldOpen
  else if name.isEmpty then
    .error (.cause (.fstring ("invalid conversion character: " ++ wanted)) none)
  else if name == ['s'] || name == ['r'] || name == ['a'] then .ok (r.drop 1)
  else
    .error (.cause (.fstring ("invalid conversion character " ++
      String.ofList (Text.quoted name) ++ ": " ++ wanted)) none)

/-- Join texts that follow each other. -/
def joinPieces : List Piece → List Term
  | [] => []
  | .field t :: r => t :: joinPieces r
  | .text a :: .text b :: r => joinPieces (.text (a ++ b) :: r)
  | .text [] :: r => joinPieces r
  | .text a :: r => .const (.str (String.ofList a)) :: joinPieces r
termination_by ps => ps.length

/-- The pieces of a formatted text; `read` reads the term of a field. `level` tells how many formats
are around the text; in a format the pieces end before the brace that closes its field, and the
text from there on is left. -/
def pieces (read : Nat → List Char → Except GrammarFault Term) (raw : Bool) (level line : Nat)
    (s : List Char) : Nat → Except LiteralFault (List Piece × List Char × Nat)
  | 0 => .error fieldOpen
  | fuel + 1 => do
    let (taken, stop) := plainPart raw (level > 0) s
    if let .stray := stop then throw (.cause (.fstring "single '\x7d' is not allowed") none)
    let plain ← if raw then pure taken
      else (unescape 0 taken).mapError fun c => .cause c none
    let line := line + lineEnds taken
    match stop with
    | .finished | .stray => return ([.text plain], [], line)
    | .closed rest => return ([.text plain], rest, line)
    | .doubled rest =>
      let (ps, rest, line) ← pieces read raw level line rest fuel
      return (.text plain :: ps, rest, line)
    | .field r =>
      if level ≥ 2 then throw (.cause (.fstring "expressions nested too deeply") none)
      let (spelled, rest) ← (fieldTerm [] none r).mapError fun c => .cause c none
      if rest.isEmpty then throw fieldOpen
      if spelled.all (fun c => c == ' ' || c == '\t' || c == '\n' || c == '\x0c') then
        throw (.cause (.fstring "empty expression not allowed") none)
      let term ← (read line ('(' :: spelled ++ [')'])).mapError .within
      let (shown, rest) := match rest with
        | '=' :: rest =>
          let blanks := rest.takeWhile (fun c => c == ' ' || ('\t' ≤ c && c ≤ '\r'))
          (spelled ++ '=' :: blanks, rest.drop blanks.length)
        | _ => ([], rest)
      let line := line + lineEnds (if shown.isEmpty then spelled else shown)
      if rest.isEmpty then throw fieldOpen
      let rest ← match rest with
        | '!' :: r => conversionEnd r
        | _ => pure rest
      let (format, rest, line) ← match rest with
        | [':'] => throw fieldOpen
        | ':' :: r => do
          let (ps, rest, line) ← pieces read raw (level + 1) line r fuel
          pure (some (Term.joined (joinPieces ps)), rest, line)
        | _ => pure (none, rest, line)
      match rest with
      | '\x7d' :: rest =>
        let (ps, rest, line) ← pieces read raw level line rest fuel
        return (.text plain :: .text shown :: .field (.formatted term format) :: ps, rest, line)
      | _ => throw fieldOpen

/-! ## Texts -/

/-- One text as it is spelled, taken apart. -/
structure Spelled where
  isBytes : Bool
  isRaw : Bool
  isFormatted : Bool
  body : List Char

/-- Take a text apart into its marks and what stands between its quotes. -/
def Spelled.ofToken (s : List Char) : Spelled :=
  let marks := (s.takeWhile Char.isAlpha).map Char.toLower
  let quoted := s.dropWhile Char.isAlpha
  let size := match quoted with
    | a :: b :: c :: _ :: _ :: _ :: _ => if a == b && b == c then 3 else 1
    | _ => 1
  ⟨marks.contains 'b', marks.contains 'r', marks.contains 'f',
    (quoted.drop size).take (quoted.length - 2 * size)⟩

/-- What one text or several texts in a row have become so far. -/
inductive Joined where
  | bytes (b : List UInt8)
  | texts (formatted : Bool) (ps : List Piece)

/-- Read one text on a line. -/
def readSpelled (read : Nat → List Char → Except GrammarFault Term) (line : Nat) (s : Spelled) :
    Except LiteralFault Joined :=
  if s.isFormatted then
    (pieces read s.isRaw 0 line s.body (s.body.length + 1)).map fun p => .texts true p.1
  else if s.isBytes then
    if s.body.any (·.toNat ≥ 128) then .error (.cause .wideBytes (some line))
    else if s.isRaw then .ok (.bytes (s.body.map fun c => UInt8.ofNat c.toNat))
    else ((unescapeBytes 0 s.body).mapError fun c => .cause c none).map .bytes
  else if s.isRaw then .ok (.texts false [.text s.body])
  else ((unescape 0 s.body).mapError fun c => .cause c none).map fun t => .texts false [.text t]

/-- Join texts that follow each other. -/
def joinSpelled (read : Nat → List Char → Except GrammarFault Term) :
    Joined → List (List Char × Nat) → Except LiteralFault Joined
  | so, [] => .ok so
  | so, (s, line) :: rest => do
    let spelled := Spelled.ofToken s
    let more (j : Joined) : Except LiteralFault Joined :=
      match so, j with
      | .bytes a, .bytes b => .ok (.bytes (a ++ b))
      | .texts f ps, .texts g qs => .ok (.texts (f || g) (ps ++ qs))
      | _, _ => .error (.cause .mixedBytes none)
    -- Mixed kinds are told of before the fields of a formatted text are read.
    if let (.bytes _, true) := (so, spelled.isFormatted) then throw (.cause .mixedBytes none)
    joinSpelled read (← more (← readSpelled read line spelled)) rest

/-- The term of texts that follow each other, each with its line. -/
def textTerm (read : Nat → List Char → Except GrammarFault Term) (texts : List (List Char × Nat)) :
    Except LiteralFault Term := do
  let start : Joined := match texts with
    | (s, _) :: _ => if (Spelled.ofToken s).isBytes then .bytes [] else .texts false []
    | [] => .texts false []
  match ← joinSpelled read start texts with
  | .bytes b => return .const (.bytes b)
  | .texts true ps => return .joined (joinPieces ps)
  | .texts false ps =>
    match joinPieces ps with
    | t :: _ => return t
    | [] => return .const (.str "")

end Stencil.Expr
