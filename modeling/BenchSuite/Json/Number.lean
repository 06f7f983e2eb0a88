import BenchSuite.Json.Value
/-!
# JSON numbers

How floating-point numbers are written, and what written numbers mean.  Reading works on the leading
digits that fit into a 64-bit word and scales them by one power of ten (or several, where the power is
out of range), each a rounded floating-point operation; so a long numeral may come out next to the
nearest number.
-/
namespace BenchSuite

open Decimal

/-- **Doubles are written** with the fewest digits, and with a power of ten from `1e+16` up and below
`1e-5`. -/
def jsonStyle64 : Style := ⟨some (-5, 15), true, true, .toEven⟩

/-- **Singles are written** with the fewest digits of their own width, and with a power of ten from
`1e+13` up and below `1e-6`. -/
def jsonStyle32 : Style := ⟨some (-6, 12), true, true, .toEven⟩

namespace Json

/-- A number as a value; one that is not finite has none. -/
def ofReading (style : Style) : Reading → Json
  | .finite b => .number (.ofBinary style b)
  | .infinite _ | .nan => .null

def float (x : Float) : Json := ofReading jsonStyle64 (readFloat x)

def float32 (x : Float32) : Json := ofReading jsonStyle32 (readFloat x)

/-- Digits taken into a 64-bit word, and those that no longer fitted. -/
def takeDigits : Nat → List Digit → Nat × List Digit
  | n, [] => (n, [])
  | n, d :: rest => if 10 * n + d.val < UInt64.size then takeDigits (10 * n + d.val) rest else (n, d :: rest)

/-- The power of ten that a numeral names.  One that does not fit into a word is out of every range, and
its first digits are enough to see it. -/
def powerOf (n : Numeral) : Int :=
  match n.power with
  | none => 0
  | some p =>
    let size : Int := (takeDigits 0 p.digits).1
    if p.negative then -size else size

/-- The word that digits stand for, if they fit into one. -/
def wordOf? (ds : List Digit) : Option Nat :=
  match takeDigits 0 ds with
  | (word, []) => some word
  | _ => none

/-- **The digits of a numeral that are read**, as one word, and the power of ten that scales it. -/
def scaledDigits (n : Numeral) : Nat × Int :=
  let (word, dropped) := takeDigits 0 n.whole
  if dropped = [] then
    let (word, rest) := takeDigits word n.fraction
    (word, powerOf n - (n.fraction.length - rest.length : Nat))
  else
    let (word, rest) := takeDigits word n.fraction
    (word, dropped.length + powerOf n - (n.fraction.length - rest.length : Nat))

/-- A power of ten as a double. -/
def tenTo (e : Nat) : Float := Float.ofScientific 1 false e

/-- **A double scaled by a power of ten.**  A power beyond the largest double is taken in steps; a
result that is too large is refused, and one that is too small becomes zero. -/
def scale : Nat → Float → Int → Option Float
  | 0, f, _ => some f
  | fuel + 1, f, e =>
    if e.natAbs ≤ 308 then
      if 0 ≤ e then
        let g := f * tenTo e.natAbs
        if g.isInf then none else some g
      else some (f / tenTo e.natAbs)
    else if f == 0.0 then some f
    else if 0 ≤ e then none
    else scale fuel (f / tenTo 308) (e + 308)

/-- **A numeral read as a double.** -/
def numeralToFloat? (n : Numeral) : Option Float :=
  let (word, e) := scaledDigits n
  (scale 8 (UInt64.ofNat word).toFloat e).map fun f => if n.negative then -f else f

/-- **A numeral read as a count**: a whole number of 64 bits, written without point and power. -/
def numeralToCount? (n : Numeral) : Option UInt64 :=
  if n.negative = false ∧ n.fraction = [] ∧ n.power = none then (wordOf? n.whole).map UInt64.ofNat
  else none

/-- **A whole number that is read as such**: one that fits into 64 bits, with a sign bit if it is
negative.  A negative zero is none. -/
def wholeOf? (n : Numeral) : Option UInt64 := do
  let word ← wordOf? n.whole
  if n.fraction = [] ∧ n.power = none ∧ (n.negative = true → 0 < word ∧ word ≤ UInt64.size / 2) then
    some (UInt64.ofNat word)
  else none

/-- **A numeral read as a single.**  A whole number is rounded once, and all else by way of a double. -/
def numeralToFloat32? (n : Numeral) : Option Float32 :=
  match wholeOf? n with
  | some word => some (if n.negative then -word.toFloat32 else word.toFloat32)
  | none => (numeralToFloat? n).map toSingle

def toFloat? : Json → Option Float
  | .number n => numeralToFloat? n
  | _ => none

def toFloat32? : Json → Option Float32
  | .number n => numeralToFloat32? n
  | _ => none

def toCount? : Json → Option UInt64
  | .number n => numeralToCount? n
  | _ => none

/-- A count that must stay below a bound. -/
def toBounded? (bound : Nat) (j : Json) : Option Nat := do
  let n ← j.toCount?
  if n.toNat < bound then some n.toNat else none

def toUInt32? (j : Json) : Option UInt32 := (j.toBounded? UInt32.size).map UInt32.ofNat

def toByte? (j : Json) : Option UInt8 := (j.toBounded? 256).map UInt8.ofNat

end Json
end BenchSuite
