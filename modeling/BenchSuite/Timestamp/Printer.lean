import BenchSuite.Timestamp
import BenchSuite.Decimal.Fixed
/-!
# Writing points in time

Two written forms: one for reports, in UTC and with as many digits of a second as are needed in groups
of three, and one for file names, without colons and cut off at the millisecond.
-/
namespace BenchSuite

open Decimal (digitText padDigits)

/-- A number with at least a given number of digits. -/
def padded (width n : Nat) : String := digitText (padDigits width n)

/-- **A year in four digits**; one outside of 0 to 9999 has a sign, and digits as needed. -/
def yearText (y : Int) : String :=
  if 0 ≤ y ∧ y ≤ 9999 then padded 4 y.toNat
  else (if y < 0 then "-" else "+") ++ padded 4 y.natAbs

def Date.text (d : Date) : String := yearText d.year ++ "-" ++ padded 2 d.month ++ "-" ++ padded 2 d.day

/-- Hours, minutes and seconds with a separator. -/
def Clocktime.timeText (separator : String) (c : Clocktime) : String :=
  padded 2 c.hour ++ separator ++ padded 2 c.minute ++ separator ++ padded 2 c.second

/-- **The part of a second** in no, three, six or nine digits, as few as show it. -/
def fractionText (nanos : Nat) : String :=
  if nanos = 0 then ""
  else if nanos % 1000000 = 0 then "." ++ padded 3 (nanos / 1000000)
  else if nanos % 1000 = 0 then "." ++ padded 6 (nanos / 1000)
  else "." ++ padded 9 nanos

namespace Timestamp

/-- **A timestamp in a report**, such as `2025-01-02T03:04:05.007Z`. -/
def text (t : Timestamp) : String :=
  let c := t.clocktime
  c.date.text ++ "T" ++ c.timeText ":" ++ fractionText c.nanos ++ "Z"

/-- **A timestamp in a file name**, such as `2025-01-02T03-04-05.007Z`. -/
def fileStamp (t : Timestamp) : String :=
  let c := t.clocktime
  c.date.text ++ "T" ++ c.timeText "-" ++ "." ++ padded 3 (c.nanos / 1000000) ++ "Z"

/-- **A timestamp as shown to people**, such as `2025-01-02 03:04:05 UTC`. -/
def heading (t : Timestamp) : String :=
  let c := t.clocktime
  c.date.text ++ " " ++ c.timeText ":" ++ " UTC"

end Timestamp
end BenchSuite
