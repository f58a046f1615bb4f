import AppSupervisor.Machine

/-!
How log records are written.

All loggers lie below one root. A setup chooses the least level that is written and the form of a
record: the loudest and the form with most detail when asked to be verbose, warnings alone when
asked to be quiet.
-/

namespace AppSupervisor

def LogLevel.number : LogLevel → Nat
  | .debug => 10
  | .info => 20
  | .warning => 30
  | .error => 40

def LogLevel.label : LogLevel → String
  | .debug => "DEBUG"
  | .info => "INFO"
  | .warning => "WARNING"
  | .error => "ERROR"

def rootLogger : String := "appdeck"

def loggerName (name : String) : String :=
  if name == rootLogger || (rootLogger ++ ".").toList.isPrefixOf name.toList then name
  else s!"{rootLogger}.{name}"

structure LogSetup where
  level : LogLevel
  recordForm : String
  deriving DecidableEq, Repr

def plainForm : String := "%(asctime)s [%(levelname)s] %(name)s: %(message)s"

def detailedForm : String :=
  "%(asctime)s [%(levelname)s] %(name)s (%(threadName)s) %(filename)s:%(lineno)d: %(message)s"

/-- The setup for a run. To be verbose counts more than to be quiet. -/
def LogSetup.choose (verbose quiet : Bool) : LogSetup where
  level := if verbose then .debug else if quiet then .warning else .info
  recordForm := if verbose then detailedForm else plainForm

def noisyLevel : LogLevel := .warning

/-- The log records that are written, given the events in order and the level in force, if there is
one. -/
def writtenRecords : Option LogLevel → List Event → List (LogLevel × String)
  | _, [] => []
  | _, .choseLevel level :: rest => writtenRecords (some level) rest
  | least?, .logged level message :: rest =>
    if least?.any (·.number ≤ level.number) then (level, message) :: writtenRecords least? rest
    else writtenRecords least? rest
  | least?, _ :: rest => writtenRecords least? rest

def logRecords (least : LogLevel) (journal : List Event) : List (LogLevel × String) :=
  writtenRecords (some least) journal.reverse

end AppSupervisor
