import BenchSuite.Config.Reader
import BenchSuite.Files.System
/-!
# Run-plan files in a file system
-/
namespace BenchSuite

/-- The run-plan file that is used when none is named and it is there. -/
def defaultConfigPath : String := "microbench.yaml"

namespace Config

variable {m : Type → Type} [Monad m]

/-- **The run plan in a file.** -/
def load (files : FileSystem m) (path : String) : m (Except BenchError Config) := do
  if ← files.has path then
    return match ← files.readText path with
      | .ok text => ofText text
      | .error e => .error (.io "reading config file" e.message)
  else return .error (.configNotFound path)

/-- **The run plan that a command goes by**: the named one, else the default one if it is there. -/
def find (files : FileSystem m) (path : Option String) : m (Except BenchError (Option Config)) := do
  match path with
  | some path => return (← load files path).map some
  | none =>
    if ← files.has defaultConfigPath then return (← load files defaultConfigPath).map some
    else return .ok none

end Config

/-- **The built-in workloads under a run plan.** -/
def Registry.planned : Option Config → Except BenchError Registry
  | none => .ok .builtin
  | some config =>
    match apply config.overrides .builtin with
    | (.ok (), r) => .ok r
    | (.error e, _) => .error e

end BenchSuite
