import BenchSuite.Decimal.Fixed
import BenchSuite.Outcome
import BenchSuite.Plan
import BenchSuite.Timestamp
/-!
# Reports

The timing of one workload, the host it was taken on, and the report of a whole suite.  Two reports are
compared workload by workload.
-/
namespace BenchSuite

open Decimal (fixedText floatText)

/-- The timing of one workload. -/
structure Timing where
  tag : WorkloadTag
  /-- Untimed repetitions. -/
  warmup : UInt32
  /-- Timed repetitions. -/
  cycles : UInt32
  /-- Milliseconds for all timed repetitions. -/
  totalMs : Float
  /-- Milliseconds for one of them. -/
  averageMs : Float
  /-- What the last of them came to. -/
  outcome : Outcome

namespace Timing

/-- **A timing from the measured total**; without repetitions the average is zero. -/
def ofTotal (tag : WorkloadTag) (warmup cycles : UInt32) (totalMs : Float) (outcome : Outcome) : Timing :=
  { tag, warmup, cycles, totalMs, outcome
    averageMs := if cycles = 0 then 0.0 else totalMs / Float.ofNat cycles.toNat }

/-- **A timing as shown to people**, in three lines. -/
def text (t : Timing) : String :=
  t.tag.text ++ "\nwarmup: " ++ toString t.warmup.toNat ++ " cycle\n"
    ++ toString t.cycles.toNat ++ " cycle average: " ++ floatText plainStyle t.averageMs ++ " ms"

end Timing

/-- **A time in a unit that suits its size.**  The unit is chosen by the time itself and not by the
rounded number. -/
def durationText (ms : Float) : String :=
  if ms < 0.001 then fixedText 0 false (ms * 1000000.0) ++ "ns"
  else if ms < 1.0 then fixedText 2 false (ms * 1000.0) ++ "μs"
  else if ms < 1000.0 then fixedText 2 false ms ++ "ms"
  else fixedText 2 false (ms / 1000.0) ++ "s"

/-- The host that a suite ran on. -/
structure SystemInfo where
  host : String
  /-- Name and version of the operating system. -/
  os : String
  kernel : Option String
  cpuModel : String
  logicalCpus : UInt64
  cpuMhz : UInt64
  memoryBytes : UInt64
deriving DecidableEq, Repr

namespace SystemInfo

/-- **Whether timings on two hosts can be compared**: the same processor, as many times. -/
def sameHardware (a b : SystemInfo) : Bool :=
  a.cpuModel == b.cpuModel && a.logicalCpus == b.logicalCpus

def text (s : SystemInfo) : String :=
  s.cpuModel ++ " (" ++ toString s.logicalCpus.toNat ++ " logical CPUs), " ++ s.os ++ " on " ++ s.host

end SystemInfo

/-- The average of a workload now and in an earlier run. -/
structure TimingDelta where
  tag : WorkloadTag
  baselineMs : Float
  currentMs : Float

/-- **The change in percent**, positive where the workload became slower; none from nothing. -/
def TimingDelta.changePct (d : TimingDelta) : Float :=
  if d.baselineMs == 0.0 then 0.0 else (d.currentMs - d.baselineMs) / d.baselineMs * 100.0

/-- The report of a whole suite. -/
structure SuiteReport where
  suite : String
  version : String
  /-- When the suite was started. -/
  timestamp : Timestamp
  systemInfo : Option SystemInfo
  /-- Timings in the order of the run. -/
  results : List Timing

/-- The name that reports carry. -/
def suiteName : String := "microbench"

/-- The version that reports and the command line carry. -/
def suiteVersion : String := "1.0.0"

namespace SuiteReport

/-- A report without results. -/
def start (timestamp : Timestamp) (systemInfo : Option SystemInfo) : SuiteReport :=
  ⟨suiteName, suiteVersion, timestamp, systemInfo, []⟩

/-- The report with one more result. -/
def add (r : SuiteReport) (t : Timing) : SuiteReport := { r with results := r.results ++ [t] }

/-- **The first result of a workload.** -/
def find? (r : SuiteReport) (tag : String) : Option Timing := r.results.find? (·.tag.text == tag)

/-- **Each result beside the first one of the same workload in a baseline**, in run order.  Workloads
that the baseline lacks are passed over. -/
def compare (r baseline : SuiteReport) : List TimingDelta :=
  r.results.filterMap fun t =>
    (baseline.find? t.tag.text).map fun old => ⟨t.tag, old.averageMs, t.averageMs⟩

/-- **The total of all measured times**; that of none is negative zero. -/
def totalMs (r : SuiteReport) : Float := r.results.foldl (fun sum t => sum + t.totalMs) (-0.0)

end SuiteReport
end BenchSuite
