import BenchSuite.Decimal.Numeral
/-!
# Outcomes

What one execution of a kernel produces.  An outcome has no identity beyond its value: floating-point
outcomes are told apart bit by bit where a golden value asks for it, and by `==` elsewhere, where a
NaN differs from itself and the two zeros agree.
-/
namespace BenchSuite

open Decimal (Style floatText)

/-- The value that a kernel produces. -/
inductive Outcome where
  | count (n : UInt64)
  | scalar (x : Float)
  | digest (bytes : Vector UInt8 32)
  | flag (b : Bool)
  | signal (samples : List Float32)
deriving BEq

/-- **Scalars are shown** with the fewest digits, with `.0` where whole, and with a power of ten from
`1e16` up and below `1e-4`. -/
def scalarStyle : Style := ⟨some (-4, 15), true, false, .up⟩

/-- **Plain numbers are shown** with the fewest digits and never with a power of ten. -/
def plainStyle : Style := ⟨none, false, false, .up⟩

def hexDigit (n : Nat) : Char :=
  if n < 10 then Char.ofNat (48 + n) else Char.ofNat (87 + n)

/-- Two lower-case hexadecimal digits. -/
def hexByte (b : UInt8) : List Char := [hexDigit (b.toNat / 16), hexDigit (b.toNat % 16)]

def hexText (bytes : List UInt8) : String := String.ofList (bytes.flatMap hexByte)

namespace Outcome

/-- The short name of the kind of an outcome. -/
def kind : Outcome → String
  | count _ => "count"
  | scalar _ => "scalar"
  | digest _ => "digest"
  | flag _ => "flag"
  | signal _ => "signal"

/-- **An outcome as shown to people.** -/
def text : Outcome → String
  | count n => toString n.toNat
  | scalar x => floatText scalarStyle x
  | digest bytes => hexText bytes.toList
  | flag b => if b then "true" else "false"
  | signal samples => toString samples.length ++ " samples"

end Outcome
end BenchSuite
