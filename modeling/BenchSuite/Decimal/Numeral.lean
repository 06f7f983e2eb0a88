import BenchSuite.Decimal.Shortest
/-!
# Numerals

A numeral is the written form of a number: a sign, digits before and after the point, and perhaps a
power of ten.  `Numeral.ofScaled` lays a scaled number out either with its point in place or in
scientific form; a `Style` says for which sizes it does which.
-/
namespace BenchSuite.Decimal

abbrev Digit := Fin 10

-- named, so that a zero is the same term wherever it is written
instance tenNeZero : @NeZero Nat Zero.ofOfNat0 10 := ⟨by decide⟩

def Digit.toChar (d : Digit) : Char := Char.ofNat (48 + d.val)

/-- The digit that a character shows. -/
def digit? (c : Char) : Option Digit :=
  if h : '0'.toNat ≤ c.toNat ∧ c.toNat ≤ '9'.toNat then
    some ⟨c.toNat - 48, by
      have : '0'.toNat = 48 := rfl
      have : '9'.toNat = 57 := rfl
      omega⟩
  else none

def digitsAux : Nat → Nat → List Digit → List Digit
  | 0, _, acc => acc
  | fuel + 1, n, acc =>
    if h : n < 10 then ⟨n, h⟩ :: acc
    else digitsAux fuel (n / 10) (⟨n % 10, Nat.mod_lt _ (by decide)⟩ :: acc)

/-- **The decimal digits of a number**, most significant first; zero has one. -/
def digitsOf (n : Nat) : List Digit := digitsAux (n + 1) n []

/-- The number that digits stand for. -/
def ofDigits (ds : List Digit) : Nat := ds.foldl (fun n d => 10 * n + d.val) 0

def digitText (ds : List Digit) : String := String.ofList (ds.map Digit.toChar)

/-- A power of ten in a numeral: its sign and its digits. -/
structure PowerOfTen where
  negative : Bool
  digits : List Digit
deriving DecidableEq, Repr

def PowerOfTen.ofInt (e : Int) : PowerOfTen := ⟨e < 0, digitsOf e.natAbs⟩

/-- A written number.  No point is written when there is no fraction. -/
structure Numeral where
  negative : Bool
  whole : List Digit
  fraction : List Digit
  power : Option PowerOfTen
deriving DecidableEq, Repr

/-- How large a number may be and still be written with its point in place, and the details. -/
structure Style where
  /-- The scientific exponents written with the point in place; `none` means all. -/
  positional : Option (Int × Int)
  /-- A whole number in this form ends in `.0`. -/
  pointZero : Bool
  /-- A power of ten that is not negative has a plus sign. -/
  plusPower : Bool
  tie : Tie

/-- **A number with its point in place.** -/
def Numeral.inPlace (negative pointZero : Bool) (d : Scaled) : Numeral :=
  let ds := digitsOf d.digits
  let point : Int := ds.length + d.exponent
  let fraction :=
    if 0 ≤ d.exponent then if pointZero then [0] else []
    else List.replicate (-point).toNat 0 ++ ds.drop point.toNat
  let whole := if point ≤ 0 then [0] else ds.take point.toNat ++ List.replicate d.exponent.toNat 0
  ⟨negative, whole, fraction, none⟩

/-- **A number with one digit before the point.** -/
def Numeral.scientific (negative : Bool) (d : Scaled) : Numeral :=
  let ds := digitsOf d.digits
  ⟨negative, ds.take 1, ds.drop 1, some (.ofInt (ds.length - 1 + d.exponent))⟩

/-- **A number in a style.** -/
def Numeral.ofScaled (style : Style) (negative : Bool) (d : Scaled) : Numeral :=
  let size : Int := (digitsOf d.digits).length - 1 + d.exponent
  match style.positional with
  | none => .inPlace negative style.pointZero d
  | some (low, high) =>
    if low ≤ size ∧ size ≤ high then .inPlace negative style.pointZero d
    else .scientific negative d

/-- **The numeral of a finite number in a style.** -/
def Numeral.ofBinary (style : Style) (x : Binary) : Numeral :=
  .ofScaled style x.negative (shortest style.tie x)

def PowerOfTen.text (plus : Bool) (p : PowerOfTen) : String :=
  "e" ++ (if p.negative then "-" else if plus then "+" else "") ++ digitText p.digits

def Numeral.text (plus : Bool) (n : Numeral) : String :=
  (if n.negative then "-" else "") ++ digitText n.whole
    ++ (if n.fraction.isEmpty then "" else "." ++ digitText n.fraction)
    ++ (n.power.map (PowerOfTen.text plus)).getD ""

/-- **The text of a floating-point number in a style**, `NaN` and `inf` included. -/
def floatText [FloatingPoint α] (style : Style) (x : α) : String :=
  match readFloat x with
  | .finite b => (Numeral.ofBinary style b).text style.plusPower
  | .infinite negative => if negative then "-inf" else "inf"
  | .nan => "NaN"

end BenchSuite.Decimal
