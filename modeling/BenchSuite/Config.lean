import BenchSuite.Registry
import BenchSuite.Text.Blank
/-!
# Run-plan files

A run-plan file says where reports go, whether the host is described in them, and which workloads get
other plans.  A `Draft` holds what was written; `Draft.check` turns it into a `Config` or names the first
thing that is wrong with it.
-/
namespace BenchSuite

/-- What was written about one workload. -/
structure DraftEntry where
  tag : String
  warmup : Option UInt32
  cycles : Option UInt32
deriving DecidableEq, Repr

/-- What was written in a run-plan file. -/
structure Draft where
  reportDir : String
  captureSystemInfo : Bool
  entries : List DraftEntry
deriving DecidableEq, Repr

/-- A run-plan file whose every field is valid. -/
structure Config where
  /-- Where reports are kept. -/
  reportDir : String
  /-- Reports describe the host. -/
  captureSystemInfo : Bool
  overrides : List PlanOverride
deriving DecidableEq, Repr

/-- Where reports are kept unless said otherwise. -/
def defaultReportDir : String := "data"

/-- What an empty file amounts to. -/
def Config.default : Config := ⟨defaultReportDir, true, []⟩

/-- A warm-up count for a workload, which must not be too large. -/
def checkWarmup (tag : WorkloadTag) (warmup : UInt32) : Except ValidationError UInt32 :=
  if warmup ≤ maxRepetitions then .ok warmup
  else .error (.invalidField "warmup" (toString warmup.toNat)
    ("Warm-up iterations for '" ++ tag.text ++ "' must not exceed " ++ toString maxRepetitions.toNat))

/-- **An entry in itself**: its tag is checked first, then its warm-up count, then its cycles. -/
def DraftEntry.check (e : DraftEntry) : Except ValidationError PlanOverride := do
  let tag ← WorkloadTag.ofString e.tag
  let warmup ← e.warmup.mapM (checkWarmup tag)
  let cycles ← e.cycles.mapM Cycles.ofCount
  return ⟨tag, warmup, cycles⟩

/-- **Entries after others** whose tags may not occur again. -/
def checkEntries (seen : List WorkloadTag) : List DraftEntry → Except ValidationError (List PlanOverride)
  | [] => return []
  | e :: rest => do
    let o ← e.check
    if seen.contains o.tag then .error (.duplicateWorkload o.tag.text)
    else return o :: (← checkEntries (o.tag :: seen) rest)

namespace Draft

/-- **Checks what was written**: the report directory first, then the entries in order. -/
def check (d : Draft) : Except ValidationError Config := do
  if d.reportDir.toList.all Text.isBlank then
    .error (.invalidField "report_dir" d.reportDir "Report directory cannot be empty")
  else return ⟨d.reportDir, d.captureSystemInfo, ← checkEntries [] d.entries⟩

end Draft
end BenchSuite
