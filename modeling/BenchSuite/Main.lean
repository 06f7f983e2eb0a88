import BenchSuite.Command.Perform
import Std.Time.DateTime.Timestamp
/-!
# The program

The host that a program runs on, with its files, its clocks and its output, and the program itself.
Nothing is decided here.
-/
namespace BenchSuite

/-- The refusal that an error of the system stands for. -/
def FileError.ofSystem : IO.Error → FileError
  | .noFileOrDirectory _ code text => .system code.toNat text
  | .alreadyExists _ code text | .permissionDenied _ code text | .inappropriateType _ code text
  | .invalidArgument _ code text | .resourceExhausted _ code text | .noSuchThing _ code text
  | .resourceBusy code text | .otherError code text => .system code.toNat text
  | e => .system 5 (toString e)

/-- An action on files, or why it was refused. -/
def attempt (action : IO α) : IO (Except FileError α) := do
  try return .ok (← action)
  catch e => return .error (.ofSystem e)

/-- The files of the host. -/
def hostFiles : FileSystem IO where
  has path := (System.mkFilePath [path]).pathExists
  hasDirectory path := (System.mkFilePath [path]).isDir
  read path := attempt (IO.FS.readBinFile path)
  write path text := attempt (IO.FS.writeFile path text)
  makeDirectory path := attempt (IO.FS.createDir path)
  names path := attempt do
    return (← (System.mkFilePath [path]).readDir).toList.map fun entry => entry.fileName

/-- The time of day. -/
def timeOfDay : IO Timestamp := do
  let nanos := (← Std.Time.Timestamp.now).toNanosecondsSinceUnixEpoch.val
  return ⟨nanos / 1000000000, (nanos % 1000000000).toNat⟩

/-- The text of a file of the host without blanks at its ends, if it can be read. -/
def hostText? (path : String) : IO (Option String) := do
  match ← hostFiles.readText path with
  | .ok text => return some text.trimAscii.toString
  | .error _ => return none

/-- What the host tells of itself. -/
def hostInfo : IO SystemInfo := do
  let name ← hostText? "/proc/sys/kernel/hostname"
  let os ← hostText? "/proc/sys/kernel/ostype"
  let kernel ← hostText? "/proc/sys/kernel/osrelease"
  return ⟨name.getD "unknown", os.getD "unknown", kernel, "unknown", 0, 0, 0⟩

/-- Whether records of a level are shown. -/
def LogLevel.isShown (verbose : Bool) : LogLevel → Bool
  | .trace => false
  | .debug => verbose
  | .info | .warn | .error => true

/-- The name of a level, filled up to the longest. -/
def LogLevel.label : LogLevel → String
  | .trace => "TRACE"
  | .debug => "DEBUG"
  | .info => " INFO"
  | .warn => " WARN"
  | .error => "ERROR"

def LogValue.shown : LogValue → String
  | .text s => s
  | .number n => toString n
  | .real x => Decimal.floatText scalarStyle x

/-- A record as one line, without its time and the module that it comes from. -/
def LogRecord.line (r : LogRecord) : String :=
  r.level.label ++ " " ++ r.message ++ String.join (r.fields.map fun (name, value) => " " ++ name ++ "=" ++ value.shown)

/-- **The host of the program.**  Its log goes to the error stream. -/
def systemHost (verbose : Bool) : Host IO Nat where
  files := hostFiles
  clock := .monotonic IO.monoNanosNow
  now := timeOfDay
  systemInfo := hostInfo
  print := IO.println
  log record := if record.level.isShown verbose then IO.eprintln record.line else pure ()
  abort fault := throw (IO.userError (reprStr fault))

/-- Whether a command line asks for more of the log. -/
def isVerbose (args : List String) : Bool :=
  match Request.ofArgs args with
  | some (.perform _ verbose _) => verbose
  | _ => false

end BenchSuite

/-- Does what the command line asks for. -/
def main (args : List String) : IO UInt32 := do
  let ending ← (BenchSuite.systemHost (BenchSuite.isVerbose args)).execute args
  IO.eprint ending.errorText
  return ending.exitCode
