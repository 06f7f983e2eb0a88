import BenchSuite.Harness.Workload
/-!
# Scripted runs

A run in which the results of the kernel, the readings of the clock and the verdicts are all given
beforehand.  What the run does is kept: how often the kernel was called, when the clock was read, which
outcomes were checked, and the log.
-/
namespace BenchSuite

/-- What a scripted run is given. -/
structure Script where
  /-- The result of each call, counted from zero. -/
  result : Nat → Except KernelError Outcome
  /-- Each reading of the clock, counted from zero. -/
  reading : Nat → UInt64
  /-- The verdict on an outcome. -/
  accepts : Outcome → Bool

/-- An outcome that was checked, and how often the clock had been read by then. -/
structure Check where
  outcome : Outcome
  reads : Nat

/-- What has happened in a scripted run. -/
structure Transcript where
  /-- Calls of the kernel so far. -/
  calls : Nat
  /-- For each reading of the clock, the calls made before it. -/
  reads : List Nat
  checks : List Check
  records : List LogRecord

/-- Nothing has happened yet. -/
def Transcript.empty : Transcript := ⟨0, [], [], []⟩

namespace Script

/-- A clock with a thousand ticks in a millisecond, which never runs backwards. -/
def clock (s : Script) : Clock (StateM Transcript) UInt64 where
  now := modifyGet fun t => (s.reading t.reads.length, { t with reads := t.reads ++ [t.calls] })
  elapsed first second := if first ≤ second then second - first else 0
  ticksPerMs := 1000

def log (record : LogRecord) : StateM Transcript Unit :=
  modify fun t => { t with records := t.records ++ [record] }

/-- The job of a script. -/
def job (s : Script) (tag : WorkloadTag) (plan : RunPlan) : Job (StateM Transcript) where
  tag := tag
  plan := plan
  call := modifyGet fun t => (s.result t.calls, { t with calls := t.calls + 1 })
  accepts outcome := modifyGet fun t =>
    (s.accepts outcome, { t with checks := t.checks ++ [⟨outcome, t.reads.length⟩] })

/-- **A scripted run**: its result, and all that happened. -/
def run (s : Script) (tag : WorkloadTag) (plan : RunPlan) : Except BenchError Timing × Transcript :=
  ((s.job tag plan).run s.clock log).run Transcript.empty

/-- **A workload run under the clock of a script**: its result, and all that happened but the calls. -/
def runWorkload (s : Script) (w : Workload) : Checked (Except BenchError Timing) × Transcript :=
  let job := w.job (fun record => ExceptT.lift (log record)) throw
  (job.run s.clock.lift fun record => ExceptT.lift (log record)).run Transcript.empty

end Script
end BenchSuite
