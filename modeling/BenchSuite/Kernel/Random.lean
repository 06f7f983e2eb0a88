/-!
# A fixed stream of numbers

A linear congruential generator on sixteen bits.  Every kernel run starts its own from the same seed,
so a run draws the same numbers each time.
-/
namespace BenchSuite

/-- The state of the generator. -/
structure Random where
  seed : UInt32
deriving DecidableEq, Repr

namespace Random

/-- Where every stream starts. -/
def fresh : Random := ⟨74755⟩

/-- **Draws the next value**, which is below `2 ^ 16`. -/
def next (r : Random) : UInt32 × Random :=
  let value := (r.seed * 1309 + 13849) &&& 0xffff
  (value, ⟨value⟩)

/-- The next `n` values, and the generator after them. -/
def take : Nat → Random → List UInt32 × Random
  | 0, r => ([], r)
  | n + 1, r =>
    let (value, r) := r.next
    let (values, r) := take n r
    (value :: values, r)

/-- The generator after `n` values. -/
def drop : Nat → Random → Random
  | 0, r => r
  | n + 1, r => drop n r.next.2

end Random
end BenchSuite
