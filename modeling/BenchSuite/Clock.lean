/-!
# Clocks

A clock is read twice around the measured part of a run.  What a reading is, is the clock's own affair;
the run only needs the ticks between two of them.
-/
namespace BenchSuite

/-- A source of time with a fixed resolution. -/
structure Clock (m : Type → Type) (τ : Type) where
  /-- Reads the clock. -/
  now : m τ
  /-- The ticks from the first reading to the second. -/
  elapsed : τ → τ → UInt64
  /-- Ticks in a millisecond. -/
  ticksPerMs : Float

namespace Clock

/-- **Ticks as milliseconds.** -/
def ticksToMs (c : Clock m τ) (ticks : UInt64) : Float := ticks.toFloat / c.ticksPerMs

/-- **Nanoseconds between two readings**, none when they are reversed, and cut to 64 bits. -/
def elapsedNanos (first second : Nat) : UInt64 := UInt64.ofNat (second - first)

/-- The same clock for a run with more effects. -/
def lift [MonadLift m n] (c : Clock m τ) : Clock n τ := { c with now := monadLift c.now }

/-- A clock that counts nanoseconds. -/
def monotonic (now : m Nat) : Clock m Nat := ⟨now, elapsedNanos, 1000000⟩

end Clock
end BenchSuite
