import BenchSuite.Files.System
import BenchSuite.Report.Json
/-!
# The archive of reports

A directory in which reports are kept, one file for each.  The name of a file is made from the start
time of its report, so the names of reports sort by time; other files in the directory are passed over.
-/
namespace BenchSuite

/-- Why a report could not be written or read. -/
inductive ReportError where
  | io (cause : FileError)
  /-- The file is there and holds no report. -/
  | malformed
deriving DecidableEq, Repr

namespace ReportError

def malformedText : String := "not a suite report"

def message : ReportError → String
  | io cause => "Report I/O failed: " ++ cause.message
  | malformed => "Failed to serialize report: " ++ malformedText

/-- The error inside an error. -/
def cause? : ReportError → Option String
  | io cause => some cause.message
  | malformed => some malformedText

end ReportError

/-- A directory of reports. -/
structure Archive (m : Type → Type) where
  files : FileSystem m
  dir : String

/-- The name under which a report is kept. -/
def SuiteReport.fileName (r : SuiteReport) : String := "suite_" ++ r.timestamp.fileStamp ++ ".json"

/-- **Whether a file name is one of a report.** -/
def isReportName (name : String) : Bool :=
  "suite_".toList.isPrefixOf name.toList && ".json".toList.isSuffixOf name.toList

/-- **The names of reports** among others, in the order of their bytes. -/
def reportNames (names : List String) : List String :=
  (names.filter isReportName).mergeSort fun a b => decide (a ≤ b)

namespace Archive

variable {m : Type → Type} [Monad m]

/-- **The archive in a directory**, which is made if it is not there. -/
def create (files : FileSystem m) (dir : String) : m (Except ReportError (Archive m)) := do
  match ← files.makeDirectories dir with
  | .ok () => return .ok ⟨files, dir⟩
  | .error e => return .error (.io e)

omit [Monad m] in
/-- The path under which a report is kept. -/
def path (a : Archive m) (r : SuiteReport) : String := Path.join a.dir r.fileName

/-- **Saves a report** and answers with its path. -/
def save (a : Archive m) (r : SuiteReport) : m (Except ReportError String) := do
  match ← a.files.write (a.path r) r.savedText with
  | .ok () => return .ok (a.path r)
  | .error e => return .error (.io e)

/-- **The paths of all reports**, the oldest first. -/
def list (a : Archive m) : m (Except ReportError (List String)) := do
  match ← a.files.names a.dir with
  | .ok names => return .ok ((reportNames names).map (Path.join a.dir))
  | .error e => return .error (.io e)

/-- **The report in a file.**  A directory can be opened like a file, but holds no report. -/
def load (files : FileSystem m) (path : String) : m (Except ReportError SuiteReport) := do
  match ← files.readText path with
  | .ok text => return match SuiteReport.ofText? text with
    | some r => .ok r
    | none => .error .malformed
  | .error e => return .error (if e = .isDirectory ∨ e = .notText then .malformed else .io e)

/-- **The latest report**, if there is any. -/
def latest (a : Archive m) : m (Except ReportError (Option SuiteReport)) := do
  match ← a.list with
  | .error e => return .error e
  | .ok paths =>
    match paths.getLast? with
    | none => return .ok none
    | some path =>
      match ← load a.files path with
      | .ok r => return .ok (some r)
      | .error e => return .error e

end Archive
end BenchSuite
