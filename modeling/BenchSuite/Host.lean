import BenchSuite.Archive
import BenchSuite.Harness.Workload
/-!
# What a command needs of its host

Files, clocks, a place for its output and a log.  Commands are written against this and nothing else, so
that the same command runs on a real host and on a `Machine`.
-/
namespace BenchSuite

/-- The means that a host gives a command. -/
structure Host (m : Type → Type) (τ : Type) where
  files : FileSystem m
  /-- The clock that runs are timed by. -/
  clock : Clock m τ
  /-- The time of day. -/
  now : m Timestamp
  /-- What the host is. -/
  systemInfo : m SystemInfo
  /-- Writes a line to the output. -/
  print : String → m Unit
  log : LogRecord → m Unit
  /-- Ends everything after a fault. -/
  abort {α : Type} (fault : Fault) : m α

/-- **Runs a workload on a host.** -/
@[specialize] def Host.run [Monad m] (host : Host m τ) (w : Workload) : m (Except BenchError Timing) :=
  (w.job host.log host.abort).run host.clock host.log

/-- The value of a computation, of which a fault ends everything. -/
def Host.checked [Monad m] (host : Host m τ) : Checked α → m α
  | .ok a => return a
  | .error fault => host.abort fault

end BenchSuite
