import BenchSuite.Decimal.Binary
/-!
# The fewest digits that read back

Every real number closer to a floating-point number than to its neighbours reads back as it.  Of the
decimals in that interval, `shortest` takes one on the coarsest decimal grid that has any, and of
those on this grid the nearest.  Only the two grid points around the number itself need be looked at:
if any point of a grid lies in the interval, one of these does.
-/
namespace BenchSuite.Decimal

/-- A number on a decimal grid: `digits * 10 ^ exponent`. -/
structure Scaled where
  digits : Nat
  exponent : Int
deriving DecidableEq, Repr

/-- Which of two equally near decimals is taken. -/
inductive Tie where
  | up
  | toEven
deriving DecidableEq, Repr

/-- The factors `(a, b)` such that `d * 10 ^ k` is `d * a / b` quarter steps of `2 ^ q`. -/
def gridScale (q k : Int) : Nat × Nat :=
  (Nat.pow 10 k.toNat <<< (2 - q).toNat, Nat.pow 10 (-k).toNat <<< (q - 2).toNat)

/-- **Whether a grid point reads back as the number.**  The ends of the interval belong to it when
the mantissa is even, since ties go to even mantissas. -/
def readsBack (x : Binary) (scale : Nat × Nat) (d : Nat) : Bool :=
  let point := d * scale.1
  let low := (4 * x.mantissa - if x.narrowBelow then 1 else 2) * scale.2
  let high := (4 * x.mantissa + 2) * scale.2
  if x.mantissa % 2 = 0 then low ≤ point && point ≤ high else low < point && point < high

/-- **The better of the two points around the number on one grid**, if any reads back. -/
def gridHit (tie : Tie) (x : Binary) (k : Int) : Option Nat :=
  let scale := gridScale x.exponent k
  let below := 4 * x.mantissa * scale.2 / scale.1
  match readsBack x scale below, readsBack x scale (below + 1) with
  | false, false => none
  | true, false => some below
  | false, true => some (below + 1)
  | true, true =>
    let down := 4 * x.mantissa * scale.2 - below * scale.1
    let rise := (below + 1) * scale.1 - 4 * x.mantissa * scale.2
    if down < rise then some below
    else if rise < down then some (below + 1)
    else match tie with
      | .up => some (below + 1)
      | .toEven => some (if below % 2 = 0 then below else below + 1)

/-- The first hit on the grids `10 ^ k`, `10 ^ (k - 1)`, …. -/
def firstHit (tie : Tie) (x : Binary) : Nat → Int → Scaled
  | 0, _ => ⟨0, 0⟩
  | fuel + 1, k =>
    match gridHit tie x k with
    | some d => ⟨d, k⟩
    | none => firstHit tie x fuel (k - 1)

/-- The same number without trailing zeros. -/
def Scaled.strip : Nat → Scaled → Scaled
  | 0, d => d
  | fuel + 1, d =>
    if d.digits ≠ 0 ∧ d.digits % 10 = 0 then strip fuel ⟨d.digits / 10, d.exponent + 1⟩ else d

/-- A grid no finer than needed to start from: `10 ^ k` is above the number. -/
def coarsestGrid (x : Binary) : Int :=
  ((x.mantissa.log2 : Int) + x.exponent + 2) * 30103 / 100000 + 1

/-- **The shortest decimal that reads back as the number.**  Seventeen digits always do, and the
search starts at most two grids too high. -/
def shortest (tie : Tie) (x : Binary) : Scaled :=
  if x.mantissa = 0 then ⟨0, 0⟩ else (firstHit tie x 24 (coarsestGrid x)).strip 24

end BenchSuite.Decimal
