import BenchSuite.Text.Blank
import BenchSuite.Text.Digits
import BenchSuite.Timestamp
/-!
# Reading points in time

A lenient reader of dates with a time and an offset from UTC: blanks may stand between the parts, a
number may have fewer digits than usual, and the offset may be `Z`, `UTC` or hours and minutes.
-/
namespace BenchSuite.Timestamp

open Text (digitsValue isBlank trimStart)

/-- A part of the text as a number, and the rest. -/
abbrev Read (α : Type) := List Char → Option (α × List Char)

/-- At most `limit` digits at the front of a text. -/
def spanDigits : Nat → List Char → List Char × List Char
  | 0, cs => ([], cs)
  | _ + 1, [] => ([], [])
  | limit + 1, c :: rest =>
    if c.isDigit then let (ds, rest) := spanDigits limit rest; (c :: ds, rest) else ([], c :: rest)

/-- **A number of one to `limit` digits.** -/
def readNumber (limit : Nat) : Read Nat := fun cs =>
  match spanDigits limit cs with
  | ([], _) => none
  | (ds, rest) => some (digitsValue ds, rest)

/-- A number after blanks, within bounds. -/
def readField (low high : Nat) : Read Nat := fun cs => do
  let (n, rest) ← readNumber 2 (trimStart cs)
  if low ≤ n ∧ n ≤ high then some (n, rest) else none

/-- **A year**: four digits at most, or any number of them after a sign. -/
def readYear : Read Int := fun cs =>
  match trimStart cs with
  | '-' :: rest => (readNumber rest.length rest).map fun (n, rest) => (-(n : Int), rest)
  | '+' :: rest => (readNumber rest.length rest).map fun (n, rest) => ((n : Int), rest)
  | cs => (readNumber 4 cs).map fun (n, rest) => ((n : Int), rest)

/-- A separator after blanks. -/
def skipMark (mark : Char) (cs : List Char) : Option (List Char) :=
  match trimStart cs with
  | c :: rest => if c = mark then some rest else none
  | [] => none

/-- **The part of a second**: up to nine digits after a point count, and more are passed over. -/
def readNanos : Read Nat
  | '.' :: rest =>
    match spanDigits 9 rest with
    | ([], _) => none
    | (ds, rest) => some (digitsValue ds * Nat.pow 10 (9 - ds.length), rest.dropWhile Char.isDigit)
  | cs => some (0, cs)

/-- Two digits as a number. -/
def readPair : Read Nat
  | a :: b :: rest => if a.isDigit ∧ b.isDigit then some (digitsValue [a, b], rest) else none
  | _ => none

/-- Whether a text starts with a word in letters of either case. -/
def afterUtc : List Char → Option (List Char)
  | u :: t :: c :: rest =>
    if u.toLower = 'u' ∧ t.toLower = 't' ∧ c.toLower = 'c' then some rest else none
  | _ => none

/-- Hours and minutes of an offset, in seconds. -/
def readOffsetTime : Read Nat := fun cs => do
  let (hours, rest) ← readPair cs
  let (minutes, rest) ← readPair (rest.dropWhile fun c => c == ':' || isBlank c)
  if minutes < 60 then some (hours * 3600 + minutes * 60, rest) else none

/-- **The offset from UTC** in seconds. -/
def readOffset : Read Int := fun cs =>
  match afterUtc cs with
  | some rest => some (0, rest)
  | none =>
    match cs with
    | [] => none
    | c :: rest =>
      if c = 'Z' ∨ c = 'z' then some (0, rest)
      else if c = '+' then (readOffsetTime rest).map fun (n, rest) => ((n : Int), rest)
      else if c = '-' ∨ c = '−' then (readOffsetTime rest).map fun (n, rest) => (-(n : Int), rest)
      else none

/-- The first and the last day that a timestamp may lie on. -/
def dayRange : Int × Int :=
  (Date.toDays ⟨-262143, 1, 1⟩, Date.toDays ⟨262142, 12, 31⟩)

/-- Whether a day is within the range of timestamps. -/
def inRange (days : Int) : Bool := dayRange.1 ≤ days && days ≤ dayRange.2

/-- **A timestamp from the parts of a local time**; there must be such a time. -/
def ofLocal (date : Date) (hour minute second nanos : Nat) (offset : Int) : Option Timestamp :=
  let days := date.toDays
  let leap := second / 60
  let seconds := days * 86400 + (hour * 3600 + minute * 60 + (second - leap) : Nat) - offset
  if date.Valid ∧ inRange days ∧ offset.natAbs < 86400 ∧ inRange (seconds / 86400) then
    some ⟨seconds, nanos + leap * 1000000000⟩
  else none

/-- **The timestamp that a text is.** -/
def ofChars? (cs : List Char) : Option Timestamp := do
  let (year, cs) ← readYear cs
  let cs ← skipMark '-' cs
  let (month, cs) ← readField 1 12 cs
  let cs ← skipMark '-' cs
  let (day, cs) ← readField 1 31 cs
  let cs ← match cs with
    | c :: rest => if c = 'T' ∨ c = 't' ∨ c = ' ' then some rest else none
    | [] => none
  let (hour, cs) ← readField 0 23 cs
  let cs ← skipMark ':' cs
  let (minute, cs) ← readField 0 59 cs
  let cs ← skipMark ':' cs
  let (second, cs) ← readField 0 60 cs
  let (nanos, cs) ← readNanos cs
  let (offset, cs) ← readOffset (trimStart cs)
  if trimStart cs = [] then ofLocal ⟨year, month, day⟩ hour minute second nanos offset else none

def ofText? (s : String) : Option Timestamp := ofChars? s.toList

end BenchSuite.Timestamp
