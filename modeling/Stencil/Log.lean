/-!
# Stencil.Log -- what is reported while a program runs

Each part of the program reports under its own name and with a level of importance.
-/

namespace Stencil

/-- The parts of the program that report. -/
inductive Reporter where
  | builder | scope | tree | generator | program
  deriving DecidableEq, Repr

/-- The name under which a part reports. -/
def Reporter.name : Reporter → String
  | builder => "linegen.templates.template"
  | scope => "linegen.execution.scope"
  | tree => "linegen.tree.nodes"
  | generator => "linegen.generator"
  | program => "linegen"

/-- How important a report is. -/
inductive Level where
  | debug | info | warning | error
  deriving DecidableEq, Repr

/-- The name of a level. -/
def Level.name : Level → String
  | debug => "DEBUG"
  | info => "INFO"
  | warning => "WARNING"
  | error => "ERROR"

/-- A report. -/
structure Report where
  reporter : Reporter
  level : Level
  message : String
  deriving DecidableEq, Repr

/-- A report with its level. -/
def Report.shown (r : Report) : String := r.level.name ++ " " ++ r.message

/-- A report as a program writes it. -/
def Report.line (r : Report) : String := r.reporter.name ++ " " ++ r.shown

end Stencil
