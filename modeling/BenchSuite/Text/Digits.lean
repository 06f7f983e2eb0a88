/-!
# Decimal digits in texts
-/
namespace BenchSuite.Text

/-- The number that digits stand for. -/
def digitsValue (ds : List Char) : Nat := ds.foldl (fun n c => 10 * n + (c.toNat - '0'.toNat)) 0

/-- **The number that a text of digits stands for**; there must be one digit at least. -/
def number? (ds : List Char) : Option Nat :=
  if ds ≠ [] ∧ ds.all Char.isDigit then some (digitsValue ds) else none

end BenchSuite.Text
