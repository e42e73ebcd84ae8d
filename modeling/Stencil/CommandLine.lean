import Stencil.Arguments
import Stencil.Generator
import Stencil.Parameter
/-!
# Stencil.CommandLine -- the program

The program generates the templates named on its command line and reports on what it does. Its exit
status tells success, failed templates, or a command line that cannot be carried out; in the last
case no file has been read or written.
-/

namespace Stencil

open Stencil.Expr

/-- What the program leaves behind: its exit status, its reports, the text that stands alone when
the command line is wrong, a failure that it does not deal with, and the files. -/
structure Conclusion where
  status : Nat
  reports : List Report := []
  complaint : Option String := none
  failure : Option Failure := none
  files : FileTree

namespace CommandLine

/-- The exit statuses. -/
def statusOk : Nat := 0

/-- Some template failed, or files could not be read or written. -/
def statusFailed : Nat := 1

/-- The command line cannot be carried out. -/
def statusUsage : Nat := 2

/-- The name of the program. -/
def programName : String := "linegen"

/-! ## Reports -/

/-- The reports on what a listener hears. -/
def reportsOn : Event → List Report
  | .began source => [⟨.generator, .info, "Generating " ++ source.shown⟩]
  | .ended r =>
    if r.ok then [⟨.generator, .debug, "Wrote " ++ r.output.shown⟩]
    else
      ⟨.generator, .error,
        toString r.errors.length ++ " error(s) in " ++ r.source.shown⟩ ::
        r.errors.map fun e => ⟨.generator, .error, "  " ++ e⟩

/-- The reports on what has happened in a run. -/
def reportsOf (history : List Occurrence) : List Report :=
  history.flatMap fun
    | .heard _ e => reportsOn e
    | .reported r => [r]

/-- The reports that are shown. -/
def shown (verbose : Bool) (rs : List Report) : List Report :=
  if verbose then rs else rs.filter (·.level != .debug)

/-- A report of the program itself on an error. -/
def complain (message : String) : Report := ⟨.program, .error, message⟩

/-! ## The program -/

/-- The fields of the settings that a command line gives. -/
def fields (a : Arguments) (parameters : Layer) : List (String × FieldContent) :=
  let field (name : String) (value : Option String) :=
    (value.map fun v => (name, FieldContent.text v)).toList
  ("files", .list (a.files.map .text)) :: ("parameters", .bindings parameters) ::
    field "base_dir" a.base ++ field "output_dir" a.output ++ field "encoding" a.encoding

/-- Whether a failure comes from files or from their encoding. -/
def isFileFailure : Failure → Bool
  | .fault k _ =>
    [.fileNotFound, .isDirectory, .notDirectory, .fileExists, .fileName, .badCoding, .badEncoding,
      .badDecoding].contains k
  | _ => false

/-- The report at the end of a run. -/
def summary (results : List UnitResult) : List Report :=
  let failed := (results.filter (!·.ok)).length
  if failed == 0 then []
  else [complain (toString failed ++ " of " ++ toString results.length ++ " unit(s) failed")]

/-- The run that settings demand. -/
def setupFor (settings : Settings) (working : Path) (limits : Limits := unlimited) : Setup :=
  { settings, working, evaluator := .standardWithin limits, listeners := ["log"] }

/-- Generate with settings. A failure that does not come from files is not dealt with. -/
def conduct (c : Setup) (verbose : Bool) (files : FileTree) (machine : Machine) : Conclusion :=
  match Generator.generate c { files, machine } with
  | .ok results site =>
    let last := summary results
    { status := if last.isEmpty then statusOk else statusFailed
      reports := shown verbose (reportsOf site.history.reverse) ++ last
      files := site.files }
  | .error f site =>
    let reports := shown verbose (reportsOf site.history.reverse)
    if isFileFailure f then
      { status := statusFailed
        reports := reports ++ [complain ("Generation failed: " ++ f.message)]
        files := site.files }
    else { status := statusFailed, reports, failure := some f, files := site.files }

/-- Why a run does not begin. -/
inductive Refusal where
  /-- The demands cannot be carried out. -/
  | refused (message : String)
  | failed (f : Failure)
  deriving DecidableEq, Repr

/-- The settings that a command line gives, and the machine that holds their values. -/
def settingsFor (a : Arguments) (working : Path) (machine : Machine := {})
    (limits : Limits := unlimited) : Except Refusal (Settings × Machine) :=
  match Parameter.parseAll (.standardWithin limits) a.parameters machine with
  | .error (.parameter definition reason) _ =>
    .error (.refused (Failure.parameter definition reason).message)
  | .error f _ => .error (.failed f)
  | .ok parameters after =>
    match Settings.check working (fields a parameters) machine.codecs with
    | .error problems => .error (.refused (problemsText problems))
    | .ok settings => .ok (settings, after)

/-- Carry out the demands of a command line. -/
def carryOut (a : Arguments) (working : Path) (files : FileTree) (machine : Machine)
    (limits : Limits) : Conclusion :=
  match settingsFor a working machine limits with
  | .error (.refused message) => { status := statusUsage, reports := [complain message], files }
  | .error (.failed f) => { status := statusFailed, failure := some f, files }
  | .ok (settings, machine) => conduct (setupFor settings working limits) a.verbose files machine

/-- Run the program, on a machine and with an evaluator that reads texts within limits. -/
def run (argv : List String) (working : Path) (files : FileTree) (machine : Machine := {})
    (limits : Limits := unlimited) : Conclusion :=
  match Arguments.parse argv with
  | .error .help => { status := statusOk, files }
  | .error (.wrong message) =>
    { status := statusUsage
      complaint := some (programName ++ ": error: " ++ message)
      files }
  | .ok a => carryOut a working files machine limits

end CommandLine

end Stencil
