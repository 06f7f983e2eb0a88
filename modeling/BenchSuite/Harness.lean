import BenchSuite.Clock
import BenchSuite.Error
import BenchSuite.Log
import BenchSuite.Report
/-!
# The harness

One run is three phases, one after the other: untimed warm-up, the measured calls, and the check of
the last measured outcome.  Only the measured calls lie between the two readings of the clock.  What a
call, a reading and a log entry do is left open, so the same run is carried out by a real machine and
by a scripted one.
-/
namespace BenchSuite

/-- Something to be run: the calls of a kernel under a tag and a plan. -/
structure Job (m : Type → Type) where
  tag : WorkloadTag
  plan : RunPlan
  call : m (Except KernelError Outcome)
  accepts : Outcome → m Bool

namespace Job

/-- **Calls whose outcomes are dropped**, up to the first that fails. -/
@[specialize] def warmUp [Monad m] (job : Job m) : Nat → m (Except KernelError Unit)
  | 0 => return .ok ()
  | n + 1 => do
    match ← job.call with
    | .ok _ => warmUp job n
    | .error e => return .error e

/-- **Calls of which the last outcome is kept**, up to the first that fails. -/
@[specialize] def callOn [Monad m] (job : Job m) : Nat → Outcome → m (Except KernelError Outcome)
  | 0, last => return .ok last
  | n + 1, _ => do
    match ← job.call with
    | .ok outcome => callOn job n outcome
    | .error e => return .error e

/-- The measured calls, at least one. -/
@[specialize] def measured [Monad m] (job : Job m) : m (Except KernelError Outcome) := do
  match ← job.call with
  | .ok first => callOn job (job.plan.cycles.count.toNat - 1) first
  | .error e => return .error e

/-- A record about the job. -/
def note (job : Job m) (level : LogLevel) (message : String) (fields : List (String × LogValue)) :
    LogRecord :=
  ⟨level, message, ("workload", .text job.tag.text) :: fields⟩

/-- The outcome checked: a report when it is the golden one, and a mismatch otherwise. -/
@[specialize] def conclude [Monad m] (job : Job m) (log : LogRecord → m Unit) (totalMs : Float)
    (last : Outcome) : m (Except BenchError Timing) := do
  if ← job.accepts last then
    let t := Timing.ofTotal job.tag job.plan.warmup job.plan.cycles.count totalMs last
    log (job.note .info "Workload complete" [("warmup", .number t.warmup.toNat),
      ("cycles", .number t.cycles.toNat), ("average_ms", .real t.averageMs)])
    return .ok t
  else
    log (job.note .error "Verification failed" [("actual", .text last.text)])
    return .error (.verification ⟨job.tag.text, last.text⟩)

/-- **Runs a job** by its plan.  A kernel error in either phase ends the run at once, and no report is
made of what was measured so far. -/
@[specialize] def run [Monad m] (job : Job m) (clock : Clock m τ) (log : LogRecord → m Unit) :
    m (Except BenchError Timing) := do
  let cycles := job.plan.cycles.count
  log (job.note .debug "Starting warm-up phase" [("iterations", .number job.plan.warmup.toNat)])
  match ← job.warmUp job.plan.warmup.toNat with
  | .error e => return .error (.kernel e)
  | .ok () =>
    log (job.note .debug "Starting measured phase" [("iterations", .number cycles.toNat)])
    let first ← clock.now
    match ← job.measured with
    | .error e => return .error (.kernel e)
    | .ok last =>
      let second ← clock.now
      let ticks := clock.elapsed first second
      log (job.note .debug "Measured phase finished" [("ticks", .number ticks.toNat)])
      job.conclude log (clock.ticksToMs ticks) last

end Job
end BenchSuite
