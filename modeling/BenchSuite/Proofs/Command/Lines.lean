import BenchSuite.Command.Perform
import BenchSuite.Proofs.Report.Comparing
import BenchSuite.Proofs.Table.Cells
/-!
# Lines as they are printed

What commands print about workloads, timings and changes, written out blank by blank (`listed`, `timing`, `result`,
`delta`), apart from the cells and rows that the commands put them together from; and the name of a report.
-/
namespace BenchSuite.Lines

open Decimal (fixedText floatText)

def blanks (n : Nat) : String := String.ofList (List.replicate n ' ')

/-! ## The list -/

/-- The line of a workload: its number, its tag, its warm-up, its cycles and what it does. -/
def listed (index : Nat) (w : Workload) : String :=
  let number := toString index
  let warmup := toString w.plan.warmup.toNat
  let cycles := toString w.plan.cycles.count.toNat
  "║ " ++ number ++ blanks (3 - number.length) ++
    " ║ " ++ w.tag.text ++ blanks (14 - w.tag.text.length) ++
    " ║ " ++ blanks (7 - warmup.length) ++ warmup ++
    " ║ " ++ blanks (7 - cycles.length) ++ cycles ++
    " ║ " ++ w.description ++ blanks (58 - w.description.length) ++ " ║"

def list (ws : List Workload) : List String :=
  ["╔═════╦════════════════╦═════════╦═════════╦════════════════════════════════════════════════════════════╗",
    "║ #   ║ Tag            ║ Warm-up ║ Cycles  ║ Description                                                ║",
    "╠═════╬════════════════╬═════════╬═════════╬════════════════════════════════════════════════════════════╣"] ++
    ws.mapIdx listed ++
    ["╚═════╩════════════════╩═════════╩═════════╩════════════════════════════════════════════════════════════╝"]

theorem row_five (a b c d e : String) :
    Table.row [a, b, c, d, e] = "║ " ++ a ++ " ║ " ++ b ++ " ║ " ++ c ++ " ║ " ++ d ++ " ║ " ++ e ++ " ║" := by
  simp only [Table.row, String.intercalate_cons_cons, String.intercalate_singleton, String.append_assoc]

theorem listRow_eq (index : Nat) (w : Workload) : Table.listRow index w = listed index w := by
  unfold Table.listRow Table.left Table.right listed blanks
  rw [row_five]
  dsimp only
  simp only [String.append_assoc]

theorem list_eq (ws : List Workload) : list ws =
    [Table.top Table.listWidths, Table.listHeader, Table.separator Table.listWidths] ++ ws.mapIdx Table.listRow ++
      [Table.bottom Table.listWidths] := by
  have rows : Table.listRow = listed := funext₂ listRow_eq
  have first : [Table.top Table.listWidths, Table.listHeader, Table.separator Table.listWidths] =
      ["╔═════╦════════════════╦═════════╦═════════╦════════════════════════════════════════════════════════════╗",
        "║ #   ║ Tag            ║ Warm-up ║ Cycles  ║ Description                                                ║",
        "╠═════╬════════════════╬═════════╬═════════╬════════════════════════════════════════════════════════════╣"] := by
    decide +kernel
  have last : Table.bottom Table.listWidths =
      "╚═════╩════════════════╩═════════╩═════════╩════════════════════════════════════════════════════════════╝" := by
    decide +kernel
  rw [rows, first, last, list]

/-! ## Timings -/

/-- What is said before any workload is run. -/
def banner (size : Nat) (quick : Bool) : List String :=
  ["Microbench Suite", "================", "Workloads: " ++ toString size] ++
    (if quick then ["Mode: quick (no warm-up, 1 measured cycle)"] else []) ++ [""]

theorem banner_eq (size : Nat) (quick : Bool) : Host.banner size quick = banner size quick := rfl

def timing (t : Timing) : String :=
  t.tag.text ++ "\nwarmup: " ++ toString t.warmup.toNat ++ " cycle\n" ++ toString t.cycles.toNat ++ " cycle average: " ++
    floatText plainStyle t.averageMs ++ " ms"

theorem text_eq (t : Timing) : t.text = timing t := rfl

/-- The line of a timing in the summary: its tag, its warm-up, its cycles, its average and as much of its outcome as the
cell shows. -/
def result (t : Timing) : String :=
  let warmup := toString t.warmup.toNat
  let cycles := toString t.cycles.toNat
  let average := durationText t.averageMs
  let outcome := Table.shortened t.outcome
  "║ " ++ t.tag.text ++ blanks (14 - t.tag.text.length) ++
    " ║ " ++ blanks (7 - warmup.length) ++ warmup ++
    " ║ " ++ blanks (7 - cycles.length) ++ cycles ++
    " ║ " ++ blanks (14 - average.length) ++ average ++
    " ║ " ++ outcome ++ blanks (22 - outcome.length) ++ " ║"

def summary (ts : List Timing) : List String :=
  ["╔════════════════╦═════════╦═════════╦════════════════╦════════════════════════╗",
    "║ Workload       ║ Warm-up ║ Cycles  ║ Average        ║ Outcome                ║",
    "╠════════════════╬═════════╬═════════╬════════════════╬════════════════════════╣"] ++
    ts.map result ++
    ["╚════════════════╩═════════╩═════════╩════════════════╩════════════════════════╝",
      "Total measured time: " ++ durationText (ts.foldl (fun sum t => sum + t.totalMs) (-0.0))]

theorem summaryRow_eq (t : Timing) : Table.summaryRow t = .ok (result t) := by
  rw [Table.summaryRow, Table.outcomeCell_eq, Checked.ok_bind, row_five]
  unfold Table.left Table.right result blanks
  dsimp only
  simp only [String.append_assoc]
  rfl

theorem summary_eq (report : SuiteReport) : summary report.results =
    [Table.top Table.summaryWidths, Table.summaryHeader, Table.separator Table.summaryWidths] ++
      report.results.map result ++
      [Table.bottom Table.summaryWidths, "Total measured time: " ++ durationText report.totalMs] := by
  have first : [Table.top Table.summaryWidths, Table.summaryHeader, Table.separator Table.summaryWidths] =
      ["╔════════════════╦═════════╦═════════╦════════════════╦════════════════════════╗",
        "║ Workload       ║ Warm-up ║ Cycles  ║ Average        ║ Outcome                ║",
        "╠════════════════╬═════════╬═════════╬════════════════╬════════════════════════╣"] := by
    decide +kernel
  have last : Table.bottom Table.summaryWidths =
      "╚════════════════╩═════════╩═════════╩════════════════╩════════════════════════╝" := by
    decide +kernel
  rw [first, last, summary, SuiteReport.totalMs]

/-! ## Changes -/

def day (c : Clocktime) : String :=
  yearText c.date.year ++ "-" ++ padded 2 c.date.month ++ "-" ++ padded 2 c.date.day

def moment (t : Timestamp) : String :=
  let c := t.clocktime
  day c ++ " " ++ padded 2 c.hour ++ ":" ++ padded 2 c.minute ++ ":" ++ padded 2 c.second ++ " UTC"

/-- The line of a workload that ran before, and how much longer it took this time. -/
def delta (t old : Timing) : String :=
  let before := durationText old.averageMs
  let now := durationText t.averageMs
  let change := if old.averageMs == 0.0 then 0.0 else (t.averageMs - old.averageMs) / old.averageMs * 100.0
  "  " ++ t.tag.text ++ blanks (14 - t.tag.text.length) ++ " " ++ blanks (12 - before.length) ++ before ++ " -> " ++
    blanks (12 - now.length) ++ now ++ " (" ++ fixedText 1 true change ++ "%)"

/-- The line of each timing of a workload that ran before, compared with the first timing of the workload then. -/
def deltas (ts past : List Timing) : List String :=
  ts.filterMap fun t => (past.find? (·.tag = t.tag)).map (delta t)

/-- The remark on other hardware. -/
def remark : Option SystemInfo → Option SystemInfo → List String
  | some now, some past =>
    if now.cpuModel = past.cpuModel ∧ now.logicalCpus = past.logicalCpus then []
    else ["  note: previous run was on " ++ past.cpuModel ++ " (" ++ toString past.logicalCpus.toNat ++ " logical CPUs), " ++
      past.os ++ " on " ++ past.host]
  | _, _ => []

/-- The lines about an earlier report, if any workload is in both. -/
def comparison (ts : List Timing) (info : Option SystemInfo) (past : SuiteReport) : List String :=
  if deltas ts past.results = [] then []
  else ["", "Compared with run of " ++ moment past.timestamp ++ ":"] ++ remark info past.systemInfo ++ deltas ts past.results

theorem heading_eq (t : Timestamp) : t.heading = moment t := by
  unfold Timestamp.heading Date.text Clocktime.timeText moment day
  dsimp only
  simp only [String.append_assoc]

theorem deltaLine_eq (t old : Timing) : "  " ++ Table.deltaLine ⟨t.tag, old.averageMs, t.averageMs⟩ = delta t old := by
  unfold Table.deltaLine Table.left Table.right TimingDelta.changePct delta blanks
  dsimp only
  simp only [String.append_assoc]

theorem deltas_eq (report past : SuiteReport) :
    (report.compare past).map (fun d => "  " ++ Table.deltaLine d) = deltas report.results past.results := by
  rw [SuiteReport.compare, List.map_filterMap, deltas]
  refine List.filterMap_congr fun t _ => ?_
  have named : (fun old : Timing => old.tag.text == t.tag.text) = fun old => decide (old.tag = t.tag) := by
    funext old
    rw [Bool.eq_iff_iff, beq_iff_eq, decide_eq_true_iff, SuiteReport.same_text_iff]
  rw [SuiteReport.find?, named, Option.map_map]
  exact Option.map_congr fun old _ => deltaLine_eq t old

theorem hardwareNote_eq (report past : SuiteReport) :
    Host.hardwareNote report past = remark report.systemInfo past.systemInfo := by
  unfold Host.hardwareNote
  cases report.systemInfo with
  | none => rfl
  | some now =>
    cases past.systemInfo with
    | none => rfl
    | some earlier =>
      simp only [remark, SystemInfo.sameHardware, SystemInfo.text, Bool.and_eq_true, beq_iff_eq, String.append_assoc]

theorem comparison_eq (report past : SuiteReport) :
    Host.comparison report past = comparison report.results report.systemInfo past := by
  have none_iff : (report.compare past).isEmpty = true ↔ deltas report.results past.results = [] := by
    rw [← deltas_eq, List.map_eq_nil_iff, List.isEmpty_iff]
  simp only [Host.comparison, comparison, none_iff, deltas_eq, hardwareNote_eq, heading_eq]

/-! ## Names of reports -/

def fileName (t : Timestamp) : String :=
  let c := t.clocktime
  "suite_" ++ day c ++ "T" ++ padded 2 c.hour ++ "-" ++ padded 2 c.minute ++ "-" ++ padded 2 c.second ++ "." ++
    padded 3 (c.nanos / 1000000) ++ "Z.json"

theorem fileName_eq (report : SuiteReport) : report.fileName = fileName report.timestamp := by
  unfold SuiteReport.fileName Timestamp.fileStamp Date.text Clocktime.timeText fileName day
  dsimp only
  simp only [String.append_assoc]
  rfl

end BenchSuite.Lines
