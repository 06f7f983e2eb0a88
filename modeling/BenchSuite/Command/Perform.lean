import BenchSuite.Command.Args
import BenchSuite.Command.Table
import BenchSuite.Config.File
import BenchSuite.Host
/-!
# Performing commands

Each command reads its run plan first and does nothing else before all of it is known to be valid.  Only
the command for the whole suite writes files: its report, after all workloads have run.
-/
namespace BenchSuite

variable {m : Type → Type} [Monad m]

namespace Host

variable (host : Host m τ)

/-- Lines written to the output. -/
def printAll (lines : List String) : m Unit := lines.forM host.print

/-- The run plan of a command, and the workloads under it. -/
def plan (path : Option String) : CommandM m (Option Config × Registry) := do
  let config ← CommandM.bench (Config.find host.files path)
  let registry ← CommandM.bench (return Registry.planned config)
  return (config, registry)

/-- **Lists the workloads** with their plans. -/
def list (path : Option String) : CommandM m Unit := do
  let (_, registry) ← host.plan path
  host.printAll [Table.top Table.listWidths, Table.listHeader, Table.separator Table.listWidths]
  host.printAll (registry.workloads.mapIdx Table.listRow)
  host.printAll [Table.bottom Table.listWidths, "",
    "Total: " ++ toString registry.size ++ " workload(s)"]

/-- **Runs one workload.**  The counts given on the command line win over those of the run plan. -/
def runOne (path : Option String) (selector : String) (warmup cycles : Option UInt32) :
    CommandM m Unit := do
  let (_, registry) ← host.plan path
  let w ← CommandM.bench (return registry.select selector)
  let plan ← CommandM.option (w.plan.override warmup cycles)
  host.log ⟨.info, "Running workload", [("workload", .text w.tag.text)]⟩
  let t ← CommandM.bench (host.run (w.withPlan plan))
  host.print t.text

/-- The workloads of a registry that are named; all where none is named. -/
def choose (registry : Registry) (only : List String) : CommandM m Registry :=
  if only = [] then return registry
  else do
    let tags ← CommandM.option (only.mapM WorkloadTag.ofString)
    match registry.retain tags with
    | (.ok (), r) => return r
    | (.error e, _) => throw (.bench e)

/-- The plan of a quick run. -/
def quickPlan : RunPlan := ⟨0, .once⟩

/-- **Runs workloads one after the other**, adding their results to a report. -/
def runAll : List Workload → SuiteReport → CommandM m SuiteReport
  | [], report => return report
  | w :: rest, report => do
    let t ← CommandM.bench (host.run w)
    host.printAll [t.text, ""]
    runAll rest (report.add t)

/-- **The summary of a report**, row by row. -/
def printSummary (report : SuiteReport) : m Unit := do
  host.printAll [Table.top Table.summaryWidths, Table.summaryHeader, Table.separator Table.summaryWidths]
  report.results.forM fun t => do host.print (← host.checked (Table.summaryRow t))
  host.printAll [Table.bottom Table.summaryWidths, "Total measured time: " ++ durationText report.totalMs]

/-- The remark on a baseline that was taken on other hardware. -/
def hardwareNote (report baseline : SuiteReport) : List String :=
  match report.systemInfo, baseline.systemInfo with
  | some present, some past =>
    if present.sameHardware past then [] else ["  note: previous run was on " ++ past.text]
  | _, _ => []

/-- **The comparison of a report with a baseline**; nothing where they share no workload. -/
def comparison (report baseline : SuiteReport) : List String :=
  let deltas := report.compare baseline
  if deltas.isEmpty then []
  else ["", "Compared with run of " ++ baseline.timestamp.heading ++ ":"]
    ++ hardwareNote report baseline ++ deltas.map fun d => "  " ++ Table.deltaLine d

/-- **Keeps a report in a directory**, after comparing it with the latest one there.  One that cannot be
read is passed over. -/
def keep (report : SuiteReport) (dir : String) : CommandM m Unit := do
  let archive ← CommandM.report (Archive.create host.files dir)
  match ← archive.latest with
  | .ok (some baseline) => host.printAll (comparison report baseline)
  | .ok none => pure ()
  | .error e => host.log ⟨.warn, "Skipping comparison with previous report",
      [("dir", .text dir), ("error", .text e.message)]⟩
  let path ← CommandM.report (archive.save report)
  host.printAll ["", "Suite report saved to: " ++ path]

/-- What is said before a suite is run. -/
def banner (size : Nat) (quick : Bool) : List String :=
  ["Microbench Suite", "================", "Workloads: " ++ toString size]
    ++ (if quick then ["Mode: quick (no warm-up, 1 measured cycle)"] else []) ++ [""]

/-- **Runs a suite** and reports on it. -/
def suite (path : Option String) (only : List String) (output : Option String) (quick : Bool) :
    CommandM m Unit := do
  let (config, registry) ← host.plan path
  let registry ← choose registry only
  host.printAll (banner registry.size quick)
  let info ← if config.all Config.captureSystemInfo then some <$> host.systemInfo else pure none
  let start := SuiteReport.start (← host.now) info
  let workloads := if quick then registry.workloads.map (·.withPlan quickPlan) else registry.workloads
  let report ← host.runAll workloads start
  host.printSummary report
  match output.or (config.map Config.reportDir) with
  | some dir => host.keep report dir
  | none => pure ()

/-- The plan of an overridden workload as one line. -/
def overrideLine (registry : Registry) (o : PlanOverride) : Except BenchError String := do
  let w ← registry.get o.tag.text
  return "  - " ++ o.tag.text ++ " (warm-up: " ++ toString w.plan.warmup.toNat ++ ", cycles: "
    ++ toString w.plan.cycles.count.toNat ++ ")"

/-- A truth value as shown to people. -/
def boolText (b : Bool) : String := if b then "true" else "false"

/-- The settings of a run plan. -/
def settings (config : Config) : List String :=
  ["✓ Run plan is valid", "", "Suite Settings:", "  Report Directory:    " ++ config.reportDir,
    "  Capture System Info: " ++ boolText config.captureSystemInfo, "",
    "Overrides (" ++ toString config.overrides.length ++ "):"]

/-- The run plan in a file, and the workloads under it. -/
def check (file : String) : m (Except BenchError (Config × Registry)) := do
  match ← Config.load host.files file with
  | .error e => return .error e
  | .ok config => return (Registry.planned (some config)).map fun r => (config, r)

/-- **Checks a run-plan file** and shows what it comes to. -/
def validate (file : String) : CommandM m Unit := do
  host.log ⟨.info, "Validating run plan", [("file", .text file)]⟩
  match ← host.check file with
  | .error e => throw (.invalidFile e)
  | .ok (config, registry) =>
    host.printAll (settings config)
    config.overrides.forM fun o => do
      host.print (← CommandM.bench (return overrideLine registry o))

/-- **Performs a command** under a run plan. -/
def perform (path : Option String) : Command → CommandM m Unit
  | .run selector warmup cycles => host.runOne path selector warmup cycles
  | .suite only output quick => host.suite path only output quick
  | .list => host.list path
  | .validate file => host.validate file

/-- **Does what a command line asks for.** -/
def execute (args : List String) : m Ending := do
  match Request.ofArgs args with
  | none => return .misuse
  | some .version =>
    host.print (programName ++ " " ++ suiteVersion)
    return .success
  | some (.perform path _ command) =>
    match ← (host.perform path command).run with
    | .ok () => return .success
    | .error e => return .failure e

end Host
end BenchSuite
