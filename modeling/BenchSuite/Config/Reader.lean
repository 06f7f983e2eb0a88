import BenchSuite.Config
import BenchSuite.Yaml.Node.Reader
import BenchSuite.Yaml.Schema
import BenchSuite.Yaml.Token.Scanner
/-!
# Reading run-plan files

A run-plan file is a YAML document: a record with the members `suite` and `workloads`, both of which may
be left out.
-/
namespace BenchSuite

open Yaml (Node Read memberOr member)

/-- An entry about one workload. -/
def DraftEntry.ofNode (root n : Node) : Read DraftEntry := do
  let members ← Node.toMembers ["tag", "warmup", "cycles"] root n
  return ⟨← member members "tag" (Node.toText root),
    ← memberOr members "warmup" none (Node.toCount? root),
    ← memberOr members "cycles" none (Node.toCount? root)⟩

/-- The settings of the suite: the report directory, and whether the host is described. -/
def readSettings (root n : Node) : Read (String × Bool) := do
  let members ← Node.toMembers ["report_dir", "capture_system_info"] root n
  return (← memberOr members "report_dir" defaultReportDir (Node.toText root),
    ← memberOr members "capture_system_info" true (Node.toBool root))

namespace Draft

/-- **What a document says.** -/
def ofNode (root : Node) : Read Draft := do
  let members ← Node.toMembers ["suite", "workloads"] root root
  let (reportDir, captureSystemInfo) ← memberOr members "suite" (defaultReportDir, true) (readSettings root)
  let entries ← memberOr members "workloads" [] fun n => do
    (← Node.toItems root n).mapM (DraftEntry.ofNode root)
  return ⟨reportDir, captureSystemInfo, entries⟩

/-- **What a text says.** -/
def ofText (text : String) : Read Draft := do
  ofNode (← Node.ofTokens (← Yaml.Token.ofChars text.toList))

end Draft

/-- **The run plan in a text.** -/
def Config.ofText (text : String) : Except BenchError Config :=
  match Draft.ofText text with
  | .error problem => .error (.configParse ("YAML parse error: " ++ problem.message))
  | .ok draft =>
    match draft.check with
    | .error e => .error (.invalidPlan e)
    | .ok config => .ok config

end BenchSuite
