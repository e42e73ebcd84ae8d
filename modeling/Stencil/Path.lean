import Stencil.Text.Find
/-!
# Stencil.Path -- paths

A path is a row of names, either from a root or relative to some directory. Slashes that follow each
other count as one and a single dot as nothing; only two slashes at the very start are a root of
their own. Going up, two dots, is kept until the path is made normal, which is a matter of the names
alone.
-/

namespace Stencil

/-- A path: the number of slashes of its root (none for a relative path, otherwise one or two) and
its names, none of which is empty, a single dot, or holds a slash. -/
structure Path where
  root : Nat := 0
  names : List String := []
  deriving DecidableEq, Repr, Inhabited

namespace Path

/-- The name for the directory above. -/
def above : String := ".."

/-- The number of slashes of the root of a path text. More than two count as one. -/
def rootOf : List Char → Nat
  | '/' :: '/' :: '/' :: _ => 1
  | '/' :: '/' :: _ => 2
  | '/' :: _ => 1
  | _ => 0

/-- The names in a path text. -/
def namesOf (s : List Char) : List String :=
  ((Text.split ['/'] s).filter fun n => !n.isEmpty && n != ['.']).map String.ofList

/-- Read a path. -/
def ofText (text : String) : Path := ⟨rootOf text.toList, namesOf text.toList⟩

/-- A path as it is written; an empty relative path is a dot. -/
def shown (p : Path) : String :=
  let text := String.ofList (List.replicate p.root '/') ++ "/".intercalate p.names
  if text.isEmpty then "." else text

/-- Whether a path starts at a root. -/
def isAbsolute (p : Path) : Bool := p.root != 0

/-- The directory that holds a path; a path without names holds itself. -/
def parent (p : Path) : Path := { p with names := p.names.dropLast }

/-- A path seen from a directory. -/
def join (directory p : Path) : Path :=
  if p.isAbsolute then p else { directory with names := directory.names ++ p.names }

/-- Take back a name for each step up, where there is one. `so` are the names kept so far, the last
one first. Above a root there is nothing. -/
def resolve (absolute : Bool) (so : List String) : List String → List String
  | [] => so.reverse
  | n :: ns =>
    if n != above then resolve absolute (n :: so) ns
    else
      match so with
      | [] => resolve absolute (if absolute then [] else [n]) ns
      | m :: rest => if m == above then resolve absolute (n :: so) ns else resolve absolute rest ns

/-- A path with its steps up taken, as far as its names allow. -/
def normal (p : Path) : Path := { p with names := resolve p.isAbsolute [] p.names }

/-- The normal path from a root, seen from a working directory. -/
def absolute (working p : Path) : Path := (working.join p).normal

/-- What two rows of names do not share at their start. -/
def diverge : List String → List String → List String × List String
  | a :: as, b :: bs => if a == b then diverge as bs else (a :: as, b :: bs)
  | as, bs => (as, bs)

/-- The way to a path from a start directory. -/
def relative (working start p : Path) : Path :=
  let (up, down) := diverge (absolute working start).names (absolute working p).names
  ⟨0, up.map (fun _ => above) ++ down⟩

end Path

end Stencil
