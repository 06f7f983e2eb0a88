import BenchSuite.Decimal.Numeral
/-!
# A fixed number of places

The exact value of a number, rounded to a given number of decimal places; a value halfway between two
goes to the even one.  The sign of the number is kept even where all digits shown are zero.
-/
namespace BenchSuite.Decimal

/-- **A quotient rounded to the nearest whole number**, halves to even. -/
def roundHalfEven (num den : Nat) : Nat :=
  let q := num / den
  let r := num % den
  if 2 * r < den then q
  else if den < 2 * r then q + 1
  else if q % 2 = 0 then q else q + 1

/-- The number in units of the last place, rounded. -/
def scaledRound (places : Nat) (x : Binary) : Nat :=
  roundHalfEven ((x.mantissa * Nat.pow 10 places) <<< x.exponent.toNat) (1 <<< (-x.exponent).toNat)

/-- Digits of a number, filled up with zeros on the left. -/
def padDigits (width n : Nat) : List Digit :=
  let ds := digitsOf n
  List.replicate (width - ds.length) 0 ++ ds

/-- **The digits of a number to a fixed number of places**, without a sign. -/
def fixedDigits (places : Nat) (x : Binary) : String :=
  let n := scaledRound places x
  let whole := digitText (digitsOf (n / Nat.pow 10 places))
  if places = 0 then whole
  else whole ++ "." ++ digitText (padDigits places (n % Nat.pow 10 places))

/-- **A number to a fixed number of places**; with `plus`, a sign is always shown. -/
def fixedText [FloatingPoint α] (places : Nat) (plus : Bool) (x : α) : String :=
  let sign (negative : Bool) := if negative then "-" else if plus then "+" else ""
  match readFloat x with
  | .finite b => sign b.negative ++ fixedDigits places b
  | .infinite negative => sign negative ++ "inf"
  | .nan => "NaN"

end BenchSuite.Decimal
