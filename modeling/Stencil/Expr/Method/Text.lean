import Stencil.Expr.Argument
import Stencil.Text.Case
import Stencil.Text.Codec
import Stencil.Text.Identifier
/-!
# Stencil.Expr.Method.Text -- methods of texts

The methods a text has. Positions and lengths count characters; case, blanks and digits are those
of Unicode.
-/

namespace Stencil.Expr

open Stencil.Text (Codec)

/-- The names of the methods of texts. -/
def textMethods : List String :=
  ["capitalize", "casefold", "center", "count", "encode", "endswith", "expandtabs", "find",
   "index", "isalnum", "isalpha", "isascii", "isdecimal", "isdigit", "isidentifier", "islower",
   "isnumeric", "isprintable", "isspace", "istitle", "isupper", "join", "ljust", "lower", "lstrip",
   "maketrans", "partition", "removeprefix", "removesuffix", "replace", "rfind", "rindex", "rjust",
   "rpartition", "rsplit", "rstrip", "split", "splitlines", "startswith", "strip", "swapcase",
   "title", "translate", "upper", "zfill"]

/-! ## Helpers -/

/-- A text as a value. -/
def textValue (s : List Char) : Value := .str (String.ofList s)

/-- A text argument. -/
def textArg (v : Value) (wrong : String) : Act (List Char) := do
  match v with
  | .str s => return s.toList
  | _ => typeError wrong

/-- The part of a text between two bounds. -/
def between (s : List Char) (lo hi : Int) : List Char :=
  (s.drop lo.toNat).take (hi - lo).toNat

/-- Where a piece is found between two bounds. -/
def searchText (last : Bool) (s piece : List Char) (lo hi : Int) : Option Nat :=
  if lo > hi then none
  else
    let found := if last then Text.findLast? piece (between s lo hi)
      else Text.find? piece (between s lo hi)
    found.map (· + lo.toNat)

/-- Whether a text, between two bounds, starts or ends with a piece. -/
def affixed (atEnd : Bool) (s piece : List Char) (lo hi : Int) : Bool :=
  if lo > hi then false
  else
    if atEnd then Text.endsWith piece (between s lo hi) else Text.startsWith piece (between s lo hi)

/-- The piece and the bounds of a search. -/
def searchArgs (name : String) (size : Nat) (a : Args) : Act (Value × Int × Int) := do
  let vs ← a.within "str." name 1 3
  let (lo, hi) ← searchBounds size vs[1]? vs[2]?
  return (vs.headD .none, lo, hi)

/-- Pad a text: `left` and `right` fills. -/
def padded (s : List Char) (fill : Char) (left right : Nat) : List Char :=
  List.replicate left fill ++ s ++ List.replicate right fill

/-- Put a text in the middle. When the padding cannot be split evenly, the larger part goes before
the text if the width is odd, and after it otherwise. -/
def centered (s : List Char) (fill : Char) (width : Nat) : List Char :=
  let missing := width - s.length
  let left := missing / 2 + missing % 2 * (width % 2)
  padded s fill left (missing - left)

/-- The width and fill of a padding method. -/
def padArgs (name : String) (a : Args) : Act (Nat × Char) := do
  let vs ← a.between "str." name 1 2
  let width ← sizeArg (vs.headD .none)
  match (vs[1]? : Option Value) with
  | none => return (width.toNat, ' ')
  | some (.str f) =>
    match f.toList with
    | [c] => return (width.toNat, c)
    | _ => typeError "The fill character must be exactly one character long"
  | some v =>
    typeError ("The fill character must be a unicode character, not " ++ v.typeName)

/-- The pieces of a text between blanks, at most `n` cuts made from the left. What is left when no
more cuts are made keeps its blanks at the end. -/
def splitBlanks (s : List Char) : Nat → List (List Char)
  | 0 =>
    let r := s.dropWhile Text.isBlank
    if r.isEmpty then [] else [r]
  | n + 1 =>
    let r := s.dropWhile Text.isBlank
    if r.isEmpty then []
    else
      let word := r.takeWhile (!Text.isBlank ·)
      word :: splitBlanks (r.drop word.length) n

/-- The pieces of a text between blanks, at most `n` cuts made from the right. -/
def splitBlanksBack (s : List Char) (n : Nat) : List (List Char) :=
  ((splitBlanks s.reverse n).map List.reverse).reverse

/-- The separator and greatest number of cuts of a splitting method. -/
def splitArgs (name : String) (a : Args) : Act (Option (List Char) × Option Nat) := do
  match ← a.slots name ["sep", "maxsplit"] 2 0 with
  | [sep, most] =>
    let sep ← match sep with
      | none | some .none => pure none
      | some (.str s) => pure (some s.toList)
      | some v => typeError ("must be str or None, not " ++ v.typeName)
    let most ← match most with
      | none => pure none
      | some v => do
        let n ← sizeArg v
        pure (if n < 0 then none else some n.toNat)
    return (sep, most)
  | _ => return (none, none)

/-- Replace tabulators by blanks up to the next multiple of `size` columns. -/
def expandTabs (size : Int) (column : Int) : List Char → List Char
  | [] => []
  | '\t' :: r =>
    if size > 0 then
      let n := size - column % size
      List.replicate n.toNat ' ' ++ expandTabs size (column + n) r
    else expandTabs size column r
  | c :: r => c :: expandTabs size (if c == '\n' || c == '\r' then 0 else column + 1) r

/-- The lines of a text, with or without what ends them. -/
def splitLines (s : List Char) (keep : Bool) : List (List Char) :=
  (Text.linesWithBoundaries s).map fun (l, b) => if keep then l ++ b else l

/-- Put zeros between the sign and the rest. -/
def zeroFilled (s : List Char) (width : Nat) : List Char :=
  let zeros := List.replicate (width - s.length) '0'
  match s with
  | '+' :: r => '+' :: zeros ++ r
  | '-' :: r => '-' :: zeros ++ r
  | r => zeros ++ r

/-- The codec that a name stands for. -/
def codecNamed (name : String) : Act Codec := do
  match (← get).codecs name with
  | some k => return k
  | none => fault .lookup ("unknown encoding: " ++ name)

/-- The name of an encoding, or of a way to treat faults, given as an argument. -/
def codecArg (callable which : String) (v : Option Value) (usual : String) : Act String := do
  match v with
  | none => return usual
  | some (.str s) =>
    if s.contains '\x00' then valueError "embedded null character" else return s
  | some v =>
    typeError (callable ++ "() argument '" ++ which ++ "' must be str, not " ++ v.typeName)

/-- The name of an encoding and the way to treat faults. -/
def codecArgs (name : String) (a : Args) : Act (String × String) := do
  match ← a.slots name ["encoding", "errors"] 2 0 with
  | [e, f] =>
    return (← codecArg name "encoding" e "utf-8", ← codecArg name "errors" f "strict")
  | _ => return ("utf-8", "strict")

/-- The names, in plain form, of the encodings for which no codec is asked. -/
def directNames : List String :=
  ["utf8", "utf_8", "ascii", "us_ascii", "latin1", "latin_1", "iso8859_1", "iso_8859_1"]

/-- The failure of a codec that has been asked. It is told which one, but for a failure that tells
the place in the text. -/
def codecFailed (deed name : String) (f : Failure) : Failure :=
  if directNames.contains (String.ofList (Text.plainName false false name.toList)) then f
  else
    match f with
    | .fault .badEncoding _ | .fault .badDecoding _ => f
    | .fault kind message =>
      .fault kind
        (deed ++ " with '" ++ name ++ "' codec failed (" ++ kind.name ++ ": " ++ message ++ ")")
    | _ => f

/-- What a codec has been asked for. -/
def codecResult {α : Type} (deed name : String) (r : Except Failure α) : Act α :=
  ofExcept (r.mapError (codecFailed deed name))

/-- Encode a text, treating characters that cannot be written as told. -/
def encodeText (s : List Char) (encoding errors : String) : Act Value := do
  let k ← codecNamed encoding
  return .bytes (← codecResult "encoding" encoding (k.encode errors s))

/-- The pieces before, at and after the first or last occurrence of a separator. Where it does not
occur, all stands before it, or after it when the last one was asked for. -/
def threeWays (last : Bool) (sep s : List Char) : List (List Char) :=
  match if last then Text.findLast? sep s else Text.find? sep s with
  | some i => [s.take i, sep, s.drop (i + sep.length)]
  | none => if last then [[], [], s] else [s, [], []]

/-- The pieces before, at and after a separator, as a value. -/
def partitioned (last : Bool) (s : List Char) (v : Value) : Act Value := do
  let sep ← textArg v ("must be str, not " ++ v.typeName)
  if sep.isEmpty then valueError "empty separator"
  return .tuple ((threeWays last sep s).map textValue)

/-- The texts of a joined collection. -/
def joinParts : Nat → List Value → Act (List (List Char))
  | _, [] => return []
  | i, .str s :: r => return s.toList :: (← joinParts (i + 1) r)
  | i, v :: _ =>
    typeError ("sequence item " ++ toString i ++ ": expected str instance, " ++ v.typeName ++
      " found")

/-- What a character becomes by a translation table. -/
def translated (table : Value) (c : Char) : Act (List Char) := do
  let entry : Option Value ← match table with
    | .dict r => dictGet? r (.int c.toNat)
    | v => tryCatch (some <$> getItem v (.int c.toNat)) fun
      | .fault .badIndex _ | .fault .missingKey _ => pure none
      | e => throw e
  match entry with
  | none => return [c]
  | some .none => return []
  | some (.str s) => return s.toList
  | some v =>
    match v.int? with
    | some i =>
      if i < 0 || i > 0x10ffff then
        valueError "character mapping must be in range(0x110000)"
      else return [Char.ofNat i.toNat]
    | none => typeError "character mapping must return integer, None or str"

/-- A table that says what characters become. -/
def translationTable (a : Args) : Act Value := do
  match ← a.between "str." "maketrans" 1 3 with
  | [.dict r] => do
    let entries ← dictEntries r
    let out ← entries.foldlM (fun (acc : DictTable) e => do
      match e.shown with
      | .str s =>
        match s.toList with
        | [c] => return acc.put ⟨.whole c.toNat, .int c.toNat, e.value⟩
        | _ => valueError "string keys in translate table must be of length 1"
      | .int _ | .bool _ => return acc.put e
      | _ => typeError "keys in translate table must be strings or integers") {}
    newDict out
  | [_] => typeError "if you give only one argument to maketrans it must be a dict"
  | v :: w :: rest => do
    let from_ ← textArg v
      "first maketrans argument must be a string if there is a second argument"
    let into ← textArg w ("maketrans() argument 2 must be str, not " ++ w.typeName)
    let gone ← match rest with
      | u :: _ => textArg u ("maketrans() argument 3 must be str, not " ++ u.typeName)
      | [] => pure []
    if from_.length != into.length then
      valueError "the first two maketrans arguments must have equal length"
    let pairs := (from_.zip into).foldl (fun (acc : DictTable) (c, d) =>
      acc.put ⟨.whole c.toNat, .int c.toNat, .int d.toNat⟩) {}
    newDict (gone.foldl (fun (acc : DictTable) c =>
      acc.put ⟨.whole c.toNat, .int c.toNat, .none⟩) pairs)
  | [] => return .none

/-! ## Calling -/

/-- A predicate on the characters of a text; an empty text has none of them. -/
def textPredicate (name : String) (s : List Char) : Option Bool :=
  let every (p : Char → Bool) := !s.isEmpty && s.all p
  match name with
  | "isalnum" => some (every Text.isAlphanumeric)
  | "isalpha" => some (every Text.isLetter)
  | "isascii" => some (s.all (·.toNat < 128))
  | "isdecimal" => some (every Text.isDecimal)
  | "isdigit" => some (every Text.isDigit)
  | "isidentifier" => some (Text.isIdentifier s)
  | "islower" => some (Text.allLower s)
  | "isnumeric" => some (every Text.isNumeric)
  | "isprintable" => some (s.all Text.isPrintable)
  | "isspace" => some (every Text.isBlank)
  | "istitle" => some (Text.allTitle s)
  | "isupper" => some (Text.allUpper s)
  | _ => none

/-- A change of case. -/
def textCase (name : String) (s : List Char) : Option (List Char) :=
  match name with
  | "capitalize" => some (Text.capitalize s)
  | "casefold" => some (Text.fold s)
  | "lower" => some (Text.lower s)
  | "swapcase" => some (Text.swapCase s)
  | "title" => some (Text.titleCase s)
  | "upper" => some (Text.upper s)
  | _ => none

/-- Trim a text at one end or both. -/
def trimText (name : String) (s : List Char) (a : Args) : Act Value := do
  let p : Char → Bool ← match ← a.between "str." name 0 1 with
    | [] | [.none] => pure Text.isBlank
    | .str cs :: _ => pure fun c => cs.toList.contains c
    | _ => typeError (name ++ " arg must be None or str")
  return textValue <| match name with
    | "strip" => Text.trimWhere p s
    | "lstrip" => Text.trimLeftWhere p s
    | _ => Text.trimRightWhere p s

/-- Whether a text starts or ends with a piece or one of several. -/
def affixTest (name : String) (s : List Char) (a : Args) : Act Value := do
  let atEnd := name == "endswith"
  let (v, lo, hi) ← searchArgs name s.length a
  match v with
  | .str p => return .bool (affixed atEnd s p.toList lo hi)
  | .tuple items =>
    for item in items do
      match item with
      | .str p => if affixed atEnd s p.toList lo hi then return .bool true
      | w =>
        typeError ("tuple for " ++ name ++ " must only contain str, not " ++ w.typeName)
    return .bool false
  | w =>
    typeError (name ++ " first arg must be str or a tuple of str, not " ++ w.typeName)

/-- Call a method of a text. -/
def callText (s : List Char) (name : String) (a : Args) : Act Value := do
  let qualified := "str." ++ name
  if let some b := textPredicate name s then
    a.nothing qualified
    return .bool b
  if let some t := textCase name s then
    a.nothing qualified
    return textValue t
  match name with
  | "center" => do
    let (width, fill) ← padArgs name a
    return textValue (centered s fill width)
  | "ljust" => do
    let (width, fill) ← padArgs name a
    return textValue (padded s fill 0 (width - s.length))
  | "rjust" => do
    let (width, fill) ← padArgs name a
    return textValue (padded s fill (width - s.length) 0)
  | "zfill" => do
    let width ← sizeArg (← a.one qualified)
    return textValue (zeroFilled s width.toNat)
  | "count" => do
    let (v, lo, hi) ← searchArgs name s.length a
    let p ← textArg v ("must be str, not " ++ v.typeName)
    if lo > hi then return .int 0
    return .int (Text.occurrences p (between s lo hi)).length
  | "find" | "index" | "rfind" | "rindex" => do
    let (v, lo, hi) ← searchArgs name s.length a
    let p ← textArg v ("must be str, not " ++ v.typeName)
    match searchText (name.startsWith "r") s p lo hi with
    | some i => return .int i
    | none => if name.endsWith "find" then return .int (-1) else valueError "substring not found"
  | "startswith" | "endswith" => affixTest name s a
  | "strip" | "lstrip" | "rstrip" => trimText name s a
  | "expandtabs" => do
    match ← a.slots name ["tabsize"] 1 0 with
    | [some v] => return textValue (expandTabs (← indexArg v) 0 s)
    | _ => return textValue (expandTabs 8 0 s)
  | "join" => do
    let v ← a.one qualified
    match ← iter? v with
    | none => typeError "can only join an iterable"
    | some _ =>
      let parts ← joinParts 0 (← collect v).toList
      return textValue (Text.join s parts)
  | "partition" => do partitioned false s (← a.one qualified)
  | "rpartition" => do partitioned true s (← a.one qualified)
  | "removeprefix" => do
    let v ← a.one qualified
    let p ← textArg v ("removeprefix() argument must be str, not " ++ v.typeName)
    return textValue ((Text.afterPrefix? p s).getD s)
  | "removesuffix" => do
    let v ← a.one qualified
    let p ← textArg v ("removesuffix() argument must be str, not " ++ v.typeName)
    return textValue (if !p.isEmpty && Text.endsWith p s then s.take (s.length - p.length) else s)
  | "replace" => do
    match ← a.between "str." name 2 3 with
    | v :: w :: rest =>
      let p ← textArg v ("replace() argument 1 must be str, not " ++ v.typeName)
      let r ← textArg w ("replace() argument 2 must be str, not " ++ w.typeName)
      let n ← match rest with
        | u :: _ => do pure (← sizeArg u)
        | [] => pure (-1)
      if n < 0 then return textValue (Text.replaceAll p r s)
      else return textValue (Text.replaceUpTo p r s n.toNat)
    | _ => return .none
  | "split" => do
    let (sep, most) ← splitArgs name a
    let pieces ← match sep with
      | none => pure (splitBlanks s (most.getD s.length))
      | some [] => valueError "empty separator"
      | some p => pure (Text.splitUpTo p s (most.getD s.length))
    newList (pieces.map textValue).toArray
  | "rsplit" => do
    let (sep, most) ← splitArgs name a
    let pieces ← match sep with
      | none => pure (splitBlanksBack s (most.getD s.length))
      | some [] => valueError "empty separator"
      | some p => pure (Text.splitLastUpTo p s (most.getD s.length))
    newList (pieces.map textValue).toArray
  | "splitlines" => do
    let keep ← match ← a.slots name ["keepends"] 1 0 with
      | [some v] => do pure ((← indexArg v) != 0)
      | _ => pure false
    newList ((splitLines s keep).map textValue).toArray
  | "encode" => do
    let (encoding, errors) ← codecArgs name a
    encodeText s encoding errors
  | "translate" => do
    let table ← a.one qualified
    return textValue (← s.flatMapM (translated table))
  | "maketrans" => translationTable a
  | _ => fault .missingAttribute ("'str' object has no attribute '" ++ name ++ "'")

end Stencil.Expr
