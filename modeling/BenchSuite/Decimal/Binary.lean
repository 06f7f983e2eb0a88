/-!
# The exact value of a floating-point word

A finite floating-point number is a whole number times a power of two.  `Format.decode` reads this
value off the bits, so that every question about decimal digits becomes one about whole numbers.
-/
namespace BenchSuite.Decimal

/-- The layout of a binary word: how many bits hold the fraction and how many the exponent. -/
structure Format where
  fractionBits : Nat
  exponentBits : Nat

def Format.binary64 : Format := ⟨52, 11⟩

def Format.binary32 : Format := ⟨23, 8⟩

/-- A finite number: `mantissa * 2 ^ exponent`, with its sign. -/
structure Binary where
  negative : Bool
  mantissa : Nat
  exponent : Int
  /-- The next number towards zero is only half a step away. -/
  narrowBelow : Bool
deriving DecidableEq, Repr

/-- What a floating-point word stands for. -/
inductive Reading where
  | finite (value : Binary)
  | infinite (negative : Bool)
  | nan
deriving DecidableEq, Repr

/-- **The number that a word stands for.** -/
def Format.decode (f : Format) (bits : Nat) : Reading :=
  let fraction := bits % (1 <<< f.fractionBits)
  let field := (bits >>> f.fractionBits) % (1 <<< f.exponentBits)
  let negative := bits.testBit (f.fractionBits + f.exponentBits)
  let lowest : Int := 2 - (1 <<< (f.exponentBits - 1) : Nat) - f.fractionBits
  if field = (1 <<< f.exponentBits) - 1 then
    if fraction = 0 then .infinite negative else .nan
  else if field = 0 then .finite ⟨negative, fraction, lowest, false⟩
  else .finite ⟨negative, (1 <<< f.fractionBits) + fraction, lowest + (field - 1),
    fraction == 0 && 1 < field⟩

/-- A number type whose values are words of a format. -/
class FloatingPoint (α : Type) where
  format : Format
  bits : α → Nat

instance : FloatingPoint Float := ⟨.binary64, fun x => x.toBits.toNat⟩

instance : FloatingPoint Float32 := ⟨.binary32, fun x => x.toBits.toNat⟩

/-- The exact reading of a floating-point number. -/
def readFloat [FloatingPoint α] (x : α) : Reading :=
  (FloatingPoint.format α).decode (FloatingPoint.bits x)

open Float.Model in
/-- **The single nearest to a double**: its exact value, rounded once. -/
def toSingle (x : Float) : Float32 :=
  .ofModel <| .pack <| match x.toModel.unpack with
    | .finite sign mantissa exponent _ => .round .binary32 sign mantissa exponent
    | other => other

end BenchSuite.Decimal
