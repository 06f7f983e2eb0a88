import BenchSuite.Json.Number
import BenchSuite.Json.Printer
import BenchSuite.Json.Reader
import BenchSuite.Report
import BenchSuite.Timestamp.Printer
import BenchSuite.Timestamp.Reader
/-!
# Reports as JSON

For each type that occurs in a report, a writer and beside it a reader.  Readers build tags and cycle
counts through their checks.  Members that a reader does not know are passed over; ones that it needs
must be there once.
-/
namespace BenchSuite

open Json (record)

namespace WorkloadTag

def toJson (t : WorkloadTag) : Json := .text t.text

def ofJson? (j : Json) : Option WorkloadTag := do (WorkloadTag.ofString (← j.toText?)).toOption

end WorkloadTag

namespace Cycles

def toJson (c : Cycles) : Json := .nat c.count.toNat

def ofJson? (j : Json) : Option Cycles := do (Cycles.ofCount (← j.toUInt32?)).toOption

end Cycles

namespace RunPlan

def toJson (p : RunPlan) : Json :=
  record [("warmup", .nat p.warmup.toNat), ("cycles", p.cycles.toJson)]

/-- **A plan from its members.**  The warm-up count is taken as it is. -/
def ofJson? (j : Json) : Option RunPlan := do
  match ← j.fields ["warmup", "cycles"] with
  | [some warmup, some cycles] => return ⟨← warmup.toUInt32?, ← Cycles.ofJson? cycles⟩
  | _ => none

end RunPlan

namespace Outcome

def valueJson : Outcome → Json
  | count n => .nat n.toNat
  | scalar x => .float x
  | digest bytes => .array (bytes.toList.map fun b => .nat b.toNat)
  | flag b => .bool b
  | signal samples => .array (samples.map Json.float32)

/-- **An outcome as its kind and its value.** -/
def toJson (o : Outcome) : Json := record [("kind", .text o.kind), ("value", o.valueJson)]

/-- **The kind of an outcome**: its name.  In a record it may also be an object whose only member has that
name and no value. -/
def kindName? (inRecord : Bool) : Json → Option String
  | .string s => s
  | .object [(some name, .null)] => if inRecord then some name else none
  | _ => none

/-- A digest from its bytes, of which there must be 32. -/
def digestOfList? (bytes : List UInt8) : Option Outcome :=
  if h : bytes.length = 32 then some (.digest ⟨bytes.toArray, h⟩) else none

/-- A value of a given kind. -/
def ofValue? (kind : String) (value : Json) : Option Outcome :=
  match kind with
  | "count" => value.toCount?.map count
  | "scalar" => value.toFloat?.map scalar
  | "digest" => do digestOfList? (← (← value.items?).mapM Json.toByte?)
  | "flag" => value.toBool?.map flag
  | "signal" => do return signal (← (← value.items?).mapM Json.toFloat32?)
  | _ => none

def ofJson? (j : Json) : Option Outcome := do
  match ← j.fields ["kind", "value"] with
  | [some kind, some value] => ofValue? (← kindName? j.isObject kind) value
  | _ => none

end Outcome

namespace Timing

def toJson (t : Timing) : Json := record [
  ("tag", t.tag.toJson), ("warmup", .nat t.warmup.toNat), ("cycles", .nat t.cycles.toNat),
  ("total_ms", .float t.totalMs), ("average_ms", .float t.averageMs), ("outcome", t.outcome.toJson)]

def ofJson? (j : Json) : Option Timing := do
  match ← j.fields ["tag", "warmup", "cycles", "total_ms", "average_ms", "outcome"] with
  | [some tag, some warmup, some cycles, some total, some average, some outcome] =>
    return ⟨← WorkloadTag.ofJson? tag, ← warmup.toUInt32?, ← cycles.toUInt32?, ← total.toFloat?,
      ← average.toFloat?, ← Outcome.ofJson? outcome⟩
  | _ => none

end Timing

/-- A member that may be absent or null. -/
def optional? (read : Json → Option α) : Option Json → Option (Option α)
  | none | some .null => some none
  | some j => (read j).map some

namespace SystemInfo

def toJson (s : SystemInfo) : Json := record [
  ("host", .text s.host), ("os", .text s.os), ("kernel", (s.kernel.map Json.text).getD .null),
  ("cpu_model", .text s.cpuModel), ("logical_cpus", .nat s.logicalCpus.toNat),
  ("cpu_mhz", .nat s.cpuMhz.toNat), ("memory_bytes", .nat s.memoryBytes.toNat)]

def ofJson? (j : Json) : Option SystemInfo := do
  match ← j.fields ["host", "os", "kernel", "cpu_model", "logical_cpus", "cpu_mhz", "memory_bytes"] with
  | [some host, some os, kernel, some cpuModel, some logicalCpus, some cpuMhz, some memoryBytes] =>
    return ⟨← host.toText?, ← os.toText?, ← optional? Json.toText? kernel, ← cpuModel.toText?,
      ← logicalCpus.toCount?, ← cpuMhz.toCount?, ← memoryBytes.toCount?⟩
  | _ => none

end SystemInfo

namespace Timestamp

def toJson (t : Timestamp) : Json := .text t.text

def ofJson? (j : Json) : Option Timestamp := do ofText? (← j.toText?)

end Timestamp

namespace SuiteReport

/-- **A report as JSON**; without host information that member is left out. -/
def toJson (r : SuiteReport) : Json := record (
  [("suite", .text r.suite), ("version", .text r.version), ("timestamp", r.timestamp.toJson)]
    ++ (r.systemInfo.map fun s => ("system_info", s.toJson)).toList
    ++ [("results", .array (r.results.map Timing.toJson))])

def ofJson? (j : Json) : Option SuiteReport := do
  match ← j.fields ["suite", "version", "timestamp", "system_info", "results"] with
  | [some suite, some version, some timestamp, systemInfo, some results] =>
    return ⟨← suite.toText?, ← version.toText?, ← Timestamp.ofJson? timestamp,
      ← optional? SystemInfo.ofJson? systemInfo, ← (← results.items?).mapM Timing.ofJson?⟩
  | _ => none

/-- The text of a saved report. -/
def savedText (r : SuiteReport) : String := r.toJson.prettyText

/-- **The report in a text.** -/
def ofText? (s : String) : Option SuiteReport := do ofJson? (← Json.ofText? s)

end SuiteReport
end BenchSuite
