import BenchSuite.Archive
/-!
# Commands

What can be asked for on the command line, how a command ends, and what is said when it fails.
-/
namespace BenchSuite

/-- What is to be done. -/
inductive Command where
  /-- Run one workload, perhaps with other counts. -/
  | run (selector : String) (warmup cycles : Option UInt32)
  /-- Run all workloads, or only those named. -/
  | suite (only : List String) (output : Option String) (quick : Bool)
  | list
  /-- Check a run-plan file. -/
  | validate (file : String)
deriving DecidableEq, Repr

/-- What was asked for. -/
inductive Request where
  | version
  | perform (config : Option String) (verbose : Bool) (command : Command)
deriving DecidableEq, Repr

/-- The name of the program. -/
def programName : String := "mbench"

/-- Why a command failed. -/
inductive CommandError where
  | bench (cause : BenchError)
  /-- An option holds a value outside its rules. -/
  | option (cause : ValidationError)
  | report (cause : ReportError)
  /-- The run-plan file that was to be checked is not valid. -/
  | invalidFile (cause : BenchError)

namespace CommandError

def message : CommandError → String
  | bench cause => cause.message
  | option cause => cause.message
  | report cause => cause.message
  | invalidFile cause => cause.message

/-- The error inside an error. -/
def cause? : CommandError → Option String
  | bench cause => cause.cause?
  | option _ => none
  | report cause => cause.cause?
  | invalidFile _ => none

/-- A text with each line after the first indented by four blanks. -/
def indented (s : String) : String :=
  String.ofList (s.toList.flatMap fun c => if c = '\n' then '\n' :: "    ".toList else [c])

/-- **What is said about a failure**, with the error inside it where there is one. -/
def text : CommandError → String
  | invalidFile cause => "✗ Run plan validation failed:\n  " ++ cause.message ++ "\n"
  | e => "Error: " ++ e.message ++ "\n"
    ++ (e.cause?.map fun cause => "\nCaused by:\n    " ++ indented cause ++ "\n").getD ""

end CommandError

/-- How the program ends. -/
inductive Ending where
  | success
  | failure (cause : CommandError)
  /-- The command line was not understood. -/
  | misuse

namespace Ending

def exitCode : Ending → UInt32
  | success => 0
  | failure _ => 1
  | misuse => 2

def usage : String :=
  "Usage: mbench [-c PATH] [-v] <run SELECTOR | suite | list | validate FILE>\n"

/-- What is written to the error stream. -/
def errorText : Ending → String
  | success => ""
  | failure cause => cause.text
  | misuse => usage

end Ending

/-- A part of a command, which may fail. -/
abbrev CommandM (m : Type → Type) := ExceptT CommandError m

namespace CommandM

variable {m : Type → Type} [Monad m]

/-- A step of the benchmark. -/
def bench (x : m (Except BenchError α)) : CommandM m α := ExceptT.mk do
  return (← x).mapError .bench

/-- A step with reports. -/
def report (x : m (Except ReportError α)) : CommandM m α := ExceptT.mk do
  return (← x).mapError .report

/-- A check of an option. -/
def option (x : Except ValidationError α) : CommandM m α := ExceptT.mk (return x.mapError .option)

end CommandM
end BenchSuite
