import Stencil.Text.Punycode
import Stencil.Text.Quoted
/-!
# Stencil.Text.Codec -- encodings and what they do to files

A codec says how a text stands in bytes: as a whole, with a treatment for what cannot be written or
read, and in a file, where one text is written after the other. What a text adds to a file may depend
on what has been written before, if only that a mark stands before the first.

There are more encodings than a program knows by itself, so it is told which codec a name stands for.
-/

namespace Stencil.Text

/-- An encoding in use. -/
structure Codec where
  /-- The bytes of a text; what cannot be written is treated as told. -/
  encode : String → List Char → Except Failure (List UInt8)
  /-- The text of bytes; what cannot be read is treated as told. -/
  decode : String → List UInt8 → Except Failure (List Char)
  /-- The bytes that a text adds to a file into which other texts have been written. -/
  write : List (List Char) → List Char → Except Failure (List UInt8)
  /-- The text of a file. -/
  read : List UInt8 → Except Failure (List Char)
  deriving Inhabited

/-- The codecs by their names. -/
abbrev Codecs := String → Option Codec

namespace Codec

/-! ## Writing files -/

/-- The bytes of texts that are written after others, up to the first that cannot be written: how
many come before that one, and the failure. -/
def writeAll (k : Codec) (before : List (List Char)) :
    List (List Char) → List UInt8 × Option (Nat × Failure)
  | [] => ([], none)
  | t :: ts =>
    match k.write before t with
    | .error f => ([], some (0, f))
    | .ok bytes =>
      let (rest, stop) := k.writeAll (before ++ [t]) ts
      (bytes ++ rest, stop.map fun (n, f) => (n + 1, f))

end Codec

/-! ## Single texts -/

/-- The failure of a treatment of faults that is not known. -/
def unknownTreatment (treatment : String) : Failure :=
  .fault .lookup ("unknown error handler name '" ++ treatment ++ "'")

namespace Encoding

/-- Encode a text, treating characters that cannot be written as told. -/
def encodeTreating (e : Encoding) (treatment : String) (s : List Char) :
    Except Failure (List UInt8) := do
  let mended (mend : Char → List Char) : Except Failure (List UInt8) :=
    e.encode (s.flatMap fun c => if e.writes c then [c] else mend c)
  match e.encode s with
  | .ok b => return e.mark ++ b
  | .error f =>
    let b ← match treatment with
      | "strict" => throw f
      | "ignore" => mended fun _ => []
      | "replace" => mended fun _ => ['?']
      | "xmlcharrefreplace" =>
        mended fun c => '&' :: '#' :: Nat.toDigits 10 c.toNat ++ [';']
      | "backslashreplace" => mended fun c => (escapeForFault c).toList
      -- They stand for bytes that could not be read, and those are no characters.
      | "surrogateescape" | "surrogatepass" => throw f
      | _ => throw (unknownTreatment treatment)
    return e.mark ++ b

/-- Decode bytes, treating those that cannot be read as told. -/
def decodeTreating (e : Encoding) (treatment : String) (b : List UInt8) :
    Except Failure (List Char) :=
  match e.decode b with
  | .ok s => .ok s
  | .error f =>
    match treatment with
    | "strict" => .error f
    | "ignore" => .ok (e.decodeMending (fun _ => []) b)
    | "replace" => .ok (e.decodeMending (fun _ => ['\ufffd']) b)
    | "backslashreplace" =>
      .ok (e.decodeMending
        (fun bad => bad.flatMap fun x => '\\' :: 'x' :: hexPadded x.toNat 2) b)
    | "xmlcharrefreplace" | "namereplace" => .error (.fault .typeMismatch
        ("don't know how to handle " ++ FaultKind.badDecoding.name ++ " in error callback"))
    | _ => .error (unknownTreatment treatment)

/-- The codec of an encoding. Its mark stands before the first text of a file. -/
def codec (e : Encoding) : Codec where
  encode := e.encodeTreating
  decode := e.decodeTreating
  write before s := do
    let b ← e.encode s
    return if before.isEmpty then e.mark ++ b else b
  read := e.decodeFile

end Encoding

namespace Codec

/-! ## The codecs that are known -/

/-- UTF-8. -/
def utf8 : Codec := Encoding.utf8.codec

/-- UTF-8 behind a mark. -/
def utf8Marked : Codec := Encoding.utf8Marked.codec

/-- Latin-1. -/
def latin1 : Codec := Encoding.latin1.codec

/-- ASCII. -/
def ascii : Codec := Encoding.ascii.codec

/-- The treatments of faults in reading that Punycode knows. -/
def punycodeTreatments : List String := ["strict", "replace", "ignore"]

/-- Punycode. In a file each text is written for itself, and each block is read for itself. -/
def punycode : Codec where
  encode _ s := .ok (Punycode.encode s)
  decode treatment b :=
    if punycodeTreatments.contains treatment then Punycode.decode treatment b
    else Punycode.fault ("Unsupported error handling " ++ treatment)
  write _ s := .ok (Punycode.encode s)
  read b := Punycode.decodeBlocks (b.length / blockSize + 1) b

/-- The codec known under a name. -/
def ofName? (name : String) : Option Codec :=
  match Encoding.ofName? name with
  | some e => some e.codec
  | none =>
    if String.ofList (plainName false false name.toList) == "punycode" then some punycode
    else none

end Codec

end Stencil.Text
