import Stencil.Expr.Bindings
import Stencil.Path
import Stencil.Text.Codec
import Stencil.Text.Quoted
/-!
# Stencil.Settings -- what a run is told

The settings of a run name its templates, the directories they are read from and written below, the
encoding of both, and the first bindings. They are given as fields with contents of any kind; the
check tells every field that cannot be used. Which names are those of encodings it is told.
-/

namespace Stencil

open Stencil.Expr

/-- The settings of a run. -/
structure Settings where
  files : List Path
  base : Path
  output : Path
  encodingName : String
  encoding : Text.Codec
  parameters : Layer

/-! ## Fields -/

/-- What is given for a field. -/
inductive FieldContent where
  | text (s : String)
  | list (items : List FieldContent)
  | bindings (l : Layer)
  | other
  deriving Inhabited

/-- Why a field cannot be used. -/
inductive ProblemCause where
  | missing | notList | tooShort | notPath | notText | notBindings
  | unknownEncoding (name : String)
  | nullInEncoding (name : String)
  deriving DecidableEq, Repr

/-- A field that cannot be used. -/
structure Problem where
  place : List String
  cause : ProblemCause
  deriving DecidableEq, Repr

namespace ProblemCause

/-- The kind of a problem. -/
def kind : ProblemCause → String
  | missing => "missing"
  | notList => "list_type"
  | tooShort => "too_short"
  | notPath => "path_type"
  | notText => "string_type"
  | notBindings => "dict_type"
  | unknownEncoding _ | nullInEncoding _ => "value_error"

/-- The wording of a problem. -/
def message : ProblemCause → String
  | missing => "Field required"
  | notList => "Input should be a valid list"
  | tooShort => "List should have at least 1 item after validation, not 0"
  | notPath => "Input is not a valid path for <class 'pathlib.Path'>"
  | notText => "Input should be a valid string"
  | notBindings => "Input should be a valid dictionary"
  | unknownEncoding name => "Value error, unknown encoding: " ++ name
  | nullInEncoding _ => "Value error, embedded null character"

/-- The text that was given. -/
def given : ProblemCause → Option String
  | unknownEncoding name | nullInEncoding name => some name
  | _ => none

end ProblemCause

/-- The longest text that a problem shows, in bytes. -/
def shownLimit : Nat := 50

/-- The first characters that fit into a number of bytes. -/
def fitting : Nat → List Char → List Char
  | _, [] => []
  | room, c :: r => if c.utf8Size ≤ room then c :: fitting (room - c.utf8Size) r else []

/-- A text with its middle left out when it is long. -/
def shortened (s : List Char) : List Char :=
  if (String.ofList s).utf8ByteSize ≤ shownLimit then s
  else fitting 25 s ++ "...".toList ++ (fitting 24 s.reverse).reverse

/-- A problem in two lines, its place and what it is. -/
def Problem.lines (p : Problem) : List String :=
  let given :=
    match p.cause.given with
    | some s => ", input_value=" ++ String.ofList (shortened (Text.quoted s.toList)) ++
        ", input_type=str"
    | none => ""
  [".".intercalate p.place,
   "  " ++ p.cause.message ++ " [type=" ++ p.cause.kind ++ given ++ "]"]

/-- Problems as they are told to the user. -/
def problemsText (ps : List Problem) : String :=
  let head := toString ps.length ++ " validation error" ++ (if ps.length == 1 then "" else "s") ++
    " for GeneratorConfig"
  "\n".intercalate (head :: ps.flatMap Problem.lines)

/-! ## Checking -/

namespace Settings

/-- The problem of a field. -/
def problem {α : Type} (place : List String) (cause : ProblemCause) : Except (List Problem) α :=
  .error [⟨place, cause⟩]

/-- A path given for a field. -/
def checkPath (place : List String) : FieldContent → Except (List Problem) Path
  | .text s => .ok (Path.ofText s)
  | _ => problem place .notPath

/-- Two results, or the problems of both. -/
def both {α β : Type} (a : Except (List Problem) α) (b : Except (List Problem) β) :
    Except (List Problem) (α × β) :=
  match a, b with
  | .ok a, .ok b => .ok (a, b)
  | .error p, .ok _ => .error p
  | .ok _, .error q => .error q
  | .error p, .error q => .error (p ++ q)

/-- The paths in a list, the first of which has a number. -/
def checkPaths (name : String) : Nat → List FieldContent → Except (List Problem) (List Path)
  | _, [] => .ok []
  | i, c :: cs =>
    (both (checkPath [name, toString i] c) (checkPaths name (i + 1) cs)).map fun (p, ps) => p :: ps

/-- The templates. -/
def checkFiles : Option FieldContent → Except (List Problem) (List Path)
  | none => problem ["files"] .missing
  | some (.list []) => problem ["files"] .tooShort
  | some (.list cs) => checkPaths "files" 0 cs
  | some _ => problem ["files"] .notList

/-- A directory, by default the working directory. -/
def checkDirectory (name : String) (working : Path) :
    Option FieldContent → Except (List Problem) Path
  | none => .ok working
  | some c => checkPath [name] c

/-- The codec of the encoding, and its name. -/
def checkEncoding (codecs : Text.Codecs) :
    Option FieldContent → Except (List Problem) (String × Text.Codec)
  | none => .ok ("utf-8", .utf8)
  | some (.text name) =>
    if name.toList.contains '\x00' then problem ["encoding"] (.nullInEncoding name)
    else
      match codecs name with
      | some k => .ok (name, k)
      | none => problem ["encoding"] (.unknownEncoding name)
  | some _ => problem ["encoding"] .notText

/-- The first bindings. -/
def checkParameters : Option FieldContent → Except (List Problem) Layer
  | none => .ok []
  | some (.bindings l) => .ok l
  | some _ => problem ["parameters"] .notBindings

/-- Check the fields of settings. Fields of other names are ignored. -/
def check (working : Path) (fields : List (String × FieldContent))
    (codecs : Text.Codecs := Text.Codec.ofName?) : Except (List Problem) Settings :=
  let field (name : String) : Option FieldContent := fields.lookup name
  (both (checkFiles (field "files"))
    (both (checkDirectory "base_dir" working (field "base_dir"))
      (both (checkDirectory "output_dir" working (field "output_dir"))
        (both (checkEncoding codecs (field "encoding")) (checkParameters (field "parameters")))))).map
    fun (files, base, output, (encodingName, encoding), parameters) =>
      { files, base, output, encodingName, encoding, parameters }

end Settings

end Stencil
