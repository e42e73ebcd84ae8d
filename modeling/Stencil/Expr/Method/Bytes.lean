import Stencil.Expr.Method.Text
import Stencil.Number.Integer
/-!
# Stencil.Expr.Method.Bytes -- methods of bytes

Bytes have most methods of texts. They are looked at as characters of Latin-1, so the searches and
cuts of texts serve for them too; case, blanks and digits are those of ASCII.
-/

namespace Stencil.Expr

/-- The names of the methods of bytes. -/
def bytesMethods : List String :=
  ["capitalize", "center", "count", "decode", "endswith", "expandtabs", "find", "fromhex", "hex",
   "index", "isalnum", "isalpha", "isascii", "isdigit", "islower", "isspace", "istitle", "isupper",
   "join", "ljust", "lower", "lstrip", "maketrans", "partition", "removeprefix", "removesuffix",
   "replace", "rfind", "rindex", "rjust", "rpartition", "rsplit", "rstrip", "split", "splitlines",
   "startswith", "strip", "swapcase", "title", "translate", "upper", "zfill"]

/-- Bytes as characters. -/
def byteChars (b : List UInt8) : List Char := b.map fun x => Char.ofNat x.toNat

/-- Characters of Latin-1 as bytes. -/
def charBytes (s : List Char) : List UInt8 := s.map fun c => UInt8.ofNat c.toNat

/-- Characters of Latin-1 as a value. -/
def bytesValue (s : List Char) : Value := .bytes (charBytes s)

/-- An argument that has to be bytes. -/
def bytesArg (v : Value) : Act (List Char) := do
  match v with
  | .bytes b => return byteChars b
  | _ => typeError ("a bytes-like object is required, not '" ++ v.typeName ++ "'")

/-- A piece to search for: bytes, or one byte as an integer. -/
def pieceArg (v : Value) : Act (List Char) := do
  match v with
  | .bytes b => return byteChars b
  | _ =>
    match v.int? with
    | some i =>
      if i < 0 || i > 255 then valueError "byte must be in range(0, 256)"
      else return [Char.ofNat i.toNat]
    | none =>
      typeError ("argument should be integer or bytes-like object, not '" ++ v.typeName ++ "'")

/-- A blank of ASCII. -/
def isAsciiBlank (c : Char) : Bool := c == ' ' || (9 ≤ c.toNat && c.toNat ≤ 13)

/-- Decode bytes, treating those that cannot be read as told. Where there are none, the encoding is
not looked for. -/
def decodeBytes (b : List UInt8) (encoding errors : String) : Act Value := do
  if b.isEmpty then return .str ""
  let k ← codecNamed encoding
  return textValue (← codecResult "decoding" encoding (k.decode errors b))

/-- A predicate on bytes. -/
def bytesPredicate (name : String) (s : List Char) : Option Bool :=
  let every (p : Char → Bool) := !s.isEmpty && s.all p
  match name with
  | "isalnum" => some (every Char.isAlphanum)
  | "isalpha" => some (every Char.isAlpha)
  | "isascii" => some (s.all (·.toNat < 128))
  | "isdigit" => some (every Char.isDigit)
  | "islower" => some (s.any Char.isLower && !s.any Char.isUpper)
  | "isspace" => some (every isAsciiBlank)
  | "istitle" => some (Text.allTitle (s.map fun c => if c.toNat < 128 then c else ' '))
  | "isupper" => some (s.any Char.isUpper && !s.any Char.isLower)
  | _ => none

/-- Title case of ASCII letters; `inWord` tells whether a letter stands before. -/
def titleAscii (inWord : Bool) : List Char → List Char
  | [] => []
  | c :: r => (if inWord then c.toLower else c.toUpper) :: titleAscii c.isAlpha r

/-- A change of case of ASCII letters. -/
def bytesCase (name : String) (s : List Char) : Option (List Char) :=
  match name with
  | "capitalize" => some ((s.take 1).map Char.toUpper ++ (s.drop 1).map Char.toLower)
  | "lower" => some (s.map Char.toLower)
  | "swapcase" => some (s.map fun c => if c.isUpper then c.toLower else c.toUpper)
  | "title" => some (titleAscii false s)
  | "upper" => some (s.map Char.toUpper)
  | _ => none

/-- The width and fill of a padding method. -/
def bytesPadArgs (name : String) (a : Args) : Act (Nat × Char) := do
  let vs ← a.within "bytes." name 1 2
  let width ← sizeArg (vs.headD .none)
  match (vs[1]? : Option Value) with
  | none => return (width.toNat, ' ')
  | some (.bytes [x]) => return (width.toNat, Char.ofNat x.toNat)
  | some v =>
    typeError (name ++ "() argument 2 must be a byte string of length 1, not " ++ v.typeName)

/-- Put back the terminators that end the lines of a text. -/
def withTerminators : List (List Char) → List Char → List (List Char)
  | [], _ => []
  | l :: ls, s =>
    let size := match s.drop l.length with
      | '\r' :: '\n' :: _ => l.length + 2
      | _ => l.length + 1
    s.take size :: withTerminators ls (s.drop size)

/-- The byte of two hexadecimal digits. -/
def hexByte? (c d : Char) : Option UInt8 :=
  match Number.hexValue? c, Number.hexValue? d with
  | some x, some y => some (UInt8.ofNat (16 * x + y))
  | _, _ => none

/-- Read bytes from pairs of hexadecimal digits with blanks between them. The fault is the position
of the first character that is out of place. -/
def readHexBytes (pos : Nat) : List Char → Except Nat (List UInt8)
  | [] => .ok []
  | [c] =>
    if isAsciiBlank c then .ok []
    else .error (if (Number.hexValue? c).isSome then pos + 1 else pos)
  | c :: d :: r =>
    if isAsciiBlank c then readHexBytes (pos + 1) (d :: r)
    else
      match hexByte? c d with
      | some x => (readHexBytes (pos + 2) r).map (x :: ·)
      | none => .error (if (Number.hexValue? c).isSome then pos + 1 else pos)

/-- The bytes that hexadecimal digits stand for. -/
def bytesFromHex (s : List Char) : Act Value := do
  let refused (i : Nat) : Act Value :=
    valueError ("non-hexadecimal number found in fromhex() arg at position " ++ toString i)
  match s.findIdx? (·.toNat ≥ 128) with
  | some i => refused i
  | none =>
    match readHexBytes 0 s with
    | .ok b => return .bytes b
    | .error i => refused i

/-- What bytes become by a table of all bytes, once those to be deleted are gone. -/
def translateBytes (table : Value) (deleted : List Char) (s : List Char) : Act (List Char) := do
  let kept := s.filter (!deleted.contains ·)
  match table with
  | .none => return kept
  | v =>
    let t := (← bytesArg v).toArray
    if t.size != 256 then valueError "translation table must be 256 characters long"
    return kept.map fun c => t[c.toNat]?.getD c

/-- The table that puts some bytes for others. -/
def bytesTable (a : Args) : Act Value := do
  match ← a.between "" "maketrans" 2 2 with
  | [v, w] =>
    let source ← bytesArg v
    let target ← bytesArg w
    if source.length != target.length then
      valueError "maketrans arguments must have same length"
    let table := (source.zip target).foldl (fun (t : Array Char) (c, d) => t.setIfInBounds c.toNat d)
      ((List.range 256).map Char.ofNat).toArray
    return bytesValue table.toList
  | _ => return .none

/-- Call a method of bytes. -/
def callBytes (b : List UInt8) (name : String) (a : Args) : Act Value := do
  let s := byteChars b
  let qualified := "bytes." ++ name
  if let some x := bytesPredicate name s then
    a.nothing qualified
    return .bool x
  if let some t := bytesCase name s then
    a.nothing qualified
    return bytesValue t
  match name with
  | "decode" => do
    let (encoding, errors) ← codecArgs name a
    decodeBytes b encoding errors
  | "hex" => do
    a.nothing qualified
    return textValue (b.flatMap fun x => Text.hexPadded x.toNat 2)
  | "count" => do
    let (v, lo, hi) ← searchArgs name s.length a
    let p ← pieceArg v
    if lo > hi then return .int 0
    return .int (Text.occurrences p (between s lo hi)).length
  | "find" | "index" | "rfind" | "rindex" => do
    let (v, lo, hi) ← searchArgs name s.length a
    let p ← pieceArg v
    match searchText (name.startsWith "r") s p lo hi with
    | some i => return .int i
    | none =>
      if name.endsWith "find" then return .int (-1) else valueError "subsection not found"
  | "startswith" | "endswith" => do
    let (v, lo, hi) ← searchArgs name s.length a
    match v with
    | .bytes p => return .bool (affixed (name == "endswith") s (byteChars p) lo hi)
    | w =>
      typeError (name ++ " first arg must be bytes or a tuple of bytes, not " ++ w.typeName)
  | "strip" | "lstrip" | "rstrip" => do
    let p : Char → Bool ← match ← a.between "bytes." name 0 1 with
      | [] | [.none] => pure isAsciiBlank
      | v :: _ => do
        let cs ← bytesArg v
        pure fun c => cs.contains c
    return bytesValue <| match name with
      | "strip" => Text.trimWhere p s
      | "lstrip" => Text.trimLeftWhere p s
      | _ => Text.trimRightWhere p s
  | "replace" => do
    match ← a.between "bytes." name 2 3 with
    | v :: w :: rest =>
      let p ← bytesArg v
      let r ← bytesArg w
      let n ← match rest with
        | u :: _ => sizeArg u
        | [] => pure (-1)
      return bytesValue (if n < 0 then Text.replaceAll p r s else Text.replaceUpTo p r s n.toNat)
    | _ => return .none
  | "split" | "rsplit" => do
    match ← a.slots name ["sep", "maxsplit"] 2 0 with
    | [sep, most] =>
      let most ← match most with
        | none => pure s.length
        | some v => do
          let n ← sizeArg v
          pure (if n < 0 then s.length else n.toNat)
      let pieces ← match sep with
        | none | some .none =>
          pure (if name == "split" then splitBlanks s most else splitBlanksBack s most)
        | some v => do
          let p ← bytesArg v
          if p.isEmpty then valueError "empty separator"
          pure (if name == "split" then Text.splitUpTo p s most else Text.splitLastUpTo p s most)
      newList (pieces.map bytesValue).toArray
    | _ => return .none
  | "join" => do
    let parts ← (← collect (← a.one qualified)).toList.mapM bytesArg
    return bytesValue (Text.join s parts)
  | "removeprefix" => do
    return bytesValue ((Text.afterPrefix? (← bytesArg (← a.one qualified)) s).getD s)
  | "removesuffix" => do
    let p ← bytesArg (← a.one qualified)
    return bytesValue (if !p.isEmpty && Text.endsWith p s then s.take (s.length - p.length) else s)
  | "zfill" => do
    let width ← sizeArg (← a.one qualified)
    return bytesValue (zeroFilled s width.toNat)
  | "center" => do
    let (width, fill) ← bytesPadArgs name a
    return bytesValue (centered s fill width)
  | "ljust" => do
    let (width, fill) ← bytesPadArgs name a
    return bytesValue (padded s fill 0 (width - s.length))
  | "rjust" => do
    let (width, fill) ← bytesPadArgs name a
    return bytesValue (padded s fill (width - s.length) 0)
  | "expandtabs" => do
    match ← a.slots name ["tabsize"] 1 0 with
    | [some v] => return bytesValue (expandTabs (← indexArg v) 0 s)
    | _ => return bytesValue (expandTabs 8 0 s)
  | "partition" | "rpartition" => do
    let sep ← bytesArg (← a.one qualified)
    if sep.isEmpty then valueError "empty separator"
    return .tuple ((threeWays (name == "rpartition") sep s).map bytesValue)
  | "splitlines" => do
    let keep ← match ← a.slots name ["keepends"] 1 0 with
      | [some v] => do pure ((← indexArg v) != 0)
      | _ => pure false
    let ls := Text.fileLines s
    newList ((if keep then withTerminators ls s else ls).map bytesValue).toArray
  | "translate" => do
    match ← a.slots name ["table", "delete"] 2 1 with
    | [some table, deleted] =>
      let gone ← match deleted with
        | some v => bytesArg v
        | none => pure []
      return bytesValue (← translateBytes table gone s)
    | _ => return .none
  | "maketrans" => bytesTable a
  | "fromhex" => do
    match ← a.one qualified with
    | .str t => bytesFromHex t.toList
    | v => typeError ("fromhex() argument must be str, not " ++ v.typeName)
  | _ => fault .missingAttribute ("'bytes' object has no attribute '" ++ name ++ "'")

end Stencil.Expr
