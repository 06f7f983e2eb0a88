import BenchSuite.Report
import BenchSuite.Workload
/-!
# Tables

The tables that commands print.  Cells are filled up with blanks to the width of their column; a cell
that is wider than its column pushes the rest of its row to the right.
-/
namespace BenchSuite.Table

/-- A text filled up with blanks on the right. -/
def left (width : Nat) (s : String) : String := s ++ String.ofList (List.replicate (width - s.length) ' ')

/-- A text filled up with blanks on the left. -/
def right (width : Nat) (s : String) : String := String.ofList (List.replicate (width - s.length) ' ') ++ s

/-- Cells between bars. -/
def row (cells : List String) : String := "║ " ++ " ║ ".intercalate cells ++ " ║"

/-- A rule across columns of given widths. -/
def rule (start middle stop : String) (widths : List Nat) : String :=
  start ++ middle.intercalate (widths.map fun w => String.ofList (List.replicate (w + 2) '═')) ++ stop

def top (widths : List Nat) : String := rule "╔" "╦" "╗" widths

def separator (widths : List Nat) : String := rule "╠" "╬" "╣" widths

def bottom (widths : List Nat) : String := rule "╚" "╩" "╝" widths

/-! ## The list of workloads -/

def listWidths : List Nat := [3, 14, 7, 7, 58]

def listHeader : String :=
  row [left 3 "#", left 14 "Tag", left 7 "Warm-up", left 7 "Cycles", left 58 "Description"]

/-- **The row of a workload** at its position. -/
def listRow (index : Nat) (w : Workload) : String :=
  row [left 3 (toString index), left 14 w.tag.text, right 7 (toString w.plan.warmup.toNat),
    right 7 (toString w.plan.cycles.count.toNat), left 58 w.description]

/-! ## The summary of a suite -/

def summaryWidths : List Nat := [14, 7, 7, 14, 22]

def summaryHeader : String :=
  row [left 14 "Workload", left 7 "Warm-up", left 7 "Cycles", left 14 "Average", left 22 "Outcome"]

/-- **The first bytes of a text**, all of it if it has no more.  There is no text that ends within a character. -/
def cutBytes (bytes : Nat) : List Char → Checked (List Char)
  | [] => .ok []
  | c :: cs =>
    if bytes = 0 then .ok []
    else if c.utf8Size ≤ bytes then (cutBytes (bytes - c.utf8Size) cs).map (c :: ·)
    else .error .assertion

/-- **An outcome in a cell**: one that is too long is cut, and points show it. -/
def outcomeCell (o : Outcome) : Checked String := do
  if 22 < o.text.utf8ByteSize then
    return left 22 (String.ofList (← cutBytes 19 o.text.toList) ++ "...")
  else return left 22 o.text

/-- **The row of a result.** -/
def summaryRow (t : Timing) : Checked String := do
  return row [left 14 t.tag.text, right 7 (toString t.warmup.toNat), right 7 (toString t.cycles.toNat),
    right 14 (durationText t.averageMs), ← outcomeCell t.outcome]

/-! ## The comparison with an earlier run -/

/-- **The line of a workload** that ran before. -/
def deltaLine (d : TimingDelta) : String :=
  left 14 d.tag.text ++ " " ++ right 12 (durationText d.baselineMs) ++ " -> "
    ++ right 12 (durationText d.currentMs) ++ " (" ++ Decimal.fixedText 1 true d.changePct ++ "%)"

end BenchSuite.Table
