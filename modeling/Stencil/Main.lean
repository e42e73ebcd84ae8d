import Std.Time.Format
import Std.Time.Zoned
import Stencil.CommandLine
/-!
# Stencil.Main -- the program on a real file system

What the program may read is loaded first: the templates, and what stands on the way to the outputs.
The run itself is a pure function of it; afterwards the files that it changed are written.
-/

namespace Stencil.Main

/-! ## Loading -/

/-- The text of a row of names from the root. -/
def absoluteText (names : List String) : String := "/" ++ "/".intercalate names

/-- What stands at a place of the file system whose surroundings are a directory. -/
def content? (names : List String) : IO (Option Content) := do
  try
    return some (.file (← IO.FS.readBinFile (absoluteText names)).toList)
  catch
    | .inappropriateType .. => return some .directory
    | _ => return none

/-- Load what stands at the places on the way to a place, and at the place itself. -/
def load (t : FileTree) (names : List String) : IO FileTree := do
  let mut t := t
  for n in List.range names.length do
    let place := names.take (n + 1)
    if t.find? (names.take n) == some .directory && (t.find? place).isNone then
      if let some c ← content? place then t := t.put place c
  return t

/-- Load what stands on the way to paths, and at the paths themselves. -/
def loadAll (working : Path) (t : FileTree) (paths : List Path) : IO FileTree :=
  paths.foldlM (fun t p => load t (Filing.place working p)) t

/-- Load what a run may read. -/
def loadFor (argv : List String) (working : Path) : IO FileTree := do
  match Arguments.parse argv with
  | .error _ => return {}
  | .ok a =>
    match CommandLine.settingsFor a working with
    | .error _ => return {}
    | .ok (settings, _) =>
      let c := CommandLine.setupFor settings working
      let t ← loadAll working {} (working :: Generator.sources c)
      loadAll working t (Generator.outputs c t)

/-! ## Storing -/

/-- Write the files that differ and make the directories that are new. -/
def store (before after : FileTree) : IO Unit := do
  for (names, c) in after.entries do
    if before.find? names != some c then
      match c with
      | .directory => IO.FS.createDirAll (absoluteText names)
      | .file bytes => IO.FS.writeBinFile (absoluteText names) ⟨bytes.toArray⟩

/-! ## Telling -/

/-- How the program is called. -/
def usage : String :=
  "usage: linegen [-h] [-d BASE_DIR] [-o OUTPUT_DIR] [-e ENCODING]\n" ++
  "               [-p NAME[=EXPR]] [-v]\n" ++
  "               FILE [FILE ...]"

/-- The time in front of a report. -/
def timeText : IO String := do
  return (← Std.Time.PlainDateTime.now).format "uuuu-MM-dd HH:mm:ss,SSS"

/-- Tell what came of a run. -/
def tell (c : Conclusion) : IO Unit := do
  for r in c.reports do
    IO.eprintln ((← timeText) ++ " " ++ r.line)
  if let some complaint := c.complaint then
    IO.eprintln usage
    IO.eprintln complaint
  if let some f := c.failure then
    IO.eprintln (f.kindName ++ ": " ++ f.message)

end Stencil.Main

open Stencil in
/-- Generate the templates named on the command line. -/
def main (argv : List String) : IO UInt32 := do
  let working := Path.ofText (toString (← IO.currentDir))
  let files ← Main.loadFor argv working
  let c := CommandLine.run argv working files
  Main.store files c.files
  if let .error .help := Arguments.parse argv then IO.println Main.usage
  Main.tell c
  return UInt32.ofNat c.status
