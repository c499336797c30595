import RecordFilter.CommandLine.Reader
import RecordFilter.Log
import RecordFilter.Program

/-! # The program as a process

A run from the words of its command line to what it leaves on the two output streams and the
status with which it exits. Events and failures go to the second stream. -/

namespace RecordFilter

/-- What a process leaves behind. -/
structure ProcessResult where
  status : UInt32
  output : String
  errors : String
  deriving DecidableEq

namespace ProcessResult

/-- The filter for the events. The environment has the last word if it has a filter. -/
def logFilter (e : Environment) (line : CommandLine) : LogFilter :=
  (e.logFilter.bind LogFilter.read?).getD
    (.upTo (if line.verbose then .debug else if line.quiet then .error else .warning))

/-- The lines of the events that are shown. -/
def logText (filter : LogFilter) (events : List Event) : String :=
  (events.filter filter.shows).foldl (fun text e => text ++ e.line ++ "\n") ""

/-- The text that tells of a failure. -/
def failureText (json : Bool) (f : Failure) : String :=
  if json then f.json.text ++ "\n" else "Error: " ++ f.message ++ "\n"

/-- What is left behind by a run with the given outcome. -/
def ofOutcome (e : Environment) (line : CommandLine) :
    Except Failure String × List Event → ProcessResult
  | (.ok output, events) => ⟨0, output, logText (logFilter e line) events⟩
  | (.error f, events) =>
    ⟨f.exitStatus, "", logText (logFilter e line) events ++ failureText line.json f⟩

/-- What is left behind if the words of the command line are not carried out. -/
def ofUsageError (e : Environment) : UsageError → ProcessResult
  | .helpAsked => ⟨0, helpText e.data, ""⟩
  | .versionAsked => ⟨0, versionText, ""⟩
  | error => ⟨2, "", "error: " ++ error.message ++ "\n"⟩

end ProcessResult

/-- Runs the program with the words of a command line. -/
def runProcess {m : Type → Type} [Monad m] [Files m] (e : Environment) (words : List String) :
    m ProcessResult := do
  match CommandLine.read e words with
  | .error error => return .ofUsageError e error
  | .ok line => return .ofOutcome e line (← (line.run e).outcome)

end RecordFilter
