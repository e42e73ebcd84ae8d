import Stencil.Failure
import Stencil.Path
import Stencil.Text.Encoding
import Stencil.Text.Quoted
/-!
# Stencil.FileTree -- files and directories

A tree of files and directories as a value. Operations on it fail as those of an operating system
do, with the path as it was given; what they changed before they fail stays changed.
-/

namespace Stencil

/-- What stands at a place of a file tree. -/
inductive Content where
  | file (bytes : List UInt8)
  | directory
  deriving DecidableEq, Repr

/-- Files and directories, by their names from the root. The root itself is always there. -/
structure FileTree where
  entries : List (List String × Content) := []
  deriving DecidableEq, Repr, Inhabited

/-- Why an operation on files fails. -/
inductive FileTrouble where
  | missing | present | notDirectory | isDirectory | nameTooLong
  deriving DecidableEq, Repr

namespace FileTrouble

/-- The kind of fault. -/
def kind : FileTrouble → FaultKind
  | missing => .fileNotFound
  | present => .fileExists
  | notDirectory => .notDirectory
  | isDirectory => .isDirectory
  | nameTooLong => .fileName

/-- The wording of the fault. -/
def message : FileTrouble → String
  | missing => "[Errno 2] No such file or directory"
  | present => "[Errno 17] File exists"
  | notDirectory => "[Errno 20] Not a directory"
  | isDirectory => "[Errno 21] Is a directory"
  | nameTooLong => "[Errno 36] File name too long"

/-- The failure of an operation on a path. -/
def failure (t : FileTrouble) (p : Path) : Failure :=
  .fault t.kind (t.message ++ ": " ++ String.ofList (Text.quoted p.shown.toList))

end FileTrouble

namespace FileTree

/-- What stands at a place. -/
def find? (t : FileTree) (names : List String) : Option Content :=
  if names.isEmpty then some .directory else t.entries.lookup names

/-- Put something at a place among other entries. -/
def putIn (names : List String) (c : Content) :
    List (List String × Content) → List (List String × Content)
  | [] => [(names, c)]
  | (n, d) :: r => if n == names then (n, c) :: r else (n, d) :: putIn names c r

/-- Put something at a place. -/
def put (t : FileTree) (names : List String) (c : Content) : FileTree := ⟨putIn names c t.entries⟩

/-- The longest name, in bytes. -/
def nameLimit : Nat := 255

/-- Go through the directories on the way to a place; `so` are the names passed. -/
def reach (t : FileTree) (so : List String) : List String → Except FileTrouble Unit
  | [] => .ok ()
  | n :: ns =>
    if n.utf8ByteSize > nameLimit then .error .nameTooLong
    -- Whether something stands at the place itself is not asked here.
    else if ns.isEmpty then .ok ()
    else
      match t.find? (so ++ [n]) with
      | none => .error .missing
      | some (.file _) => .error .notDirectory
      | some .directory => reach t (so ++ [n]) ns

/-- What stands at a place that can be reached. -/
def look (t : FileTree) (names : List String) : Except FileTrouble (Option Content) := do
  t.reach [] names
  return t.find? names

end FileTree

/-! ## Operations -/

/-- An operation on files. -/
abbrev Filing (α : Type) := EStateM Failure FileTree α

namespace Filing

/-- The names of a path from the root. -/
def place (working p : Path) : List String := (working.absolute p).names

/-- Whether a path holds a null character. -/
def holdsNull (p : Path) : Bool := p.names.any fun n => n.toList.contains '\x00'

/-- What stands at a path. -/
def look (working p : Path) : Filing (Except FileTrouble (Option Content)) :=
  return (← get).look (place working p)

/-- Refuse to open a path with a null character. -/
def checkPath (p : Path) : Filing Unit := do
  if holdsNull p then throw (.fault .badValue "embedded null byte")

/-- The bytes of a file. -/
def read (working p : Path) : Filing (List UInt8) := do
  checkPath p
  match ← look working p with
  | .error t => throw (t.failure p)
  | .ok none => throw (FileTrouble.missing.failure p)
  | .ok (some .directory) => throw (FileTrouble.isDirectory.failure p)
  | .ok (some (.file bytes)) => return bytes

/-- Write a file that may be there already. -/
def write (working p : Path) (bytes : List UInt8) : Filing Unit := do
  checkPath p
  match ← look working p with
  | .error t => throw (t.failure p)
  | .ok (some .directory) => throw (FileTrouble.isDirectory.failure p)
  | .ok _ => modify fun t => t.put (place working p) (.file bytes)

/-- Make a directory, or tell why not. -/
def tryMakeDirectory (working p : Path) : Filing (Option FileTrouble) := do
  if holdsNull p then throw (.fault .badValue "mkdir: embedded null character in path")
  match ← look working p with
  | .error t => return some t
  | .ok (some _) => return some .present
  | .ok none =>
    modify fun t => t.put (place working p) .directory
    return none

/-- Fail, unless there is a directory at the path. -/
def unlessDirectory (working p : Path) (trouble : FileTrouble) : Filing Unit := do
  match ← look working p with
  | .ok (some .directory) => return
  | _ => throw (trouble.failure p)

/-- Make a directory and those above it that are missing. There is one more of them at most than
the path has names. -/
def makeDirectories (working : Path) : Nat → Path → Filing Unit
  | 0, p => throw (FileTrouble.missing.failure p)
  | fuel + 1, p => do
    match ← tryMakeDirectory working p with
    | none => return
    | some .missing =>
      if p.parent == p then throw (FileTrouble.missing.failure p)
      makeDirectories working fuel p.parent
      -- The directory above is there now, so this is the last try.
      match ← tryMakeDirectory working p with
      | none => return
      | some .missing => throw (FileTrouble.missing.failure p)
      | some t => unlessDirectory working p t
    | some t => unlessDirectory working p t

/-- Make a directory with all directories above it. -/
def makeDirectory (working p : Path) : Filing Unit :=
  makeDirectories working (p.names.length + 1) p

end Filing

end Stencil
