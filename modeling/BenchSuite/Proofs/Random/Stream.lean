import BenchSuite.Kernel.Random
/-!
# Positions in a stream

A generator gives one value after the other.  Whoever draws from it stands at a position of its stream, and what is
drawn is said by the positions of the values.
-/
namespace BenchSuite.Random

/-- The value at a position of the stream, the first being at 0. -/
def value (r : Random) (i : Nat) : UInt32 := (r.drop i).next.1

theorem drop_add : ∀ (m n : Nat) (r : Random), r.drop (m + n) = (r.drop m).drop n
  | 0, n, r => by rw [Nat.zero_add, drop]
  | m + 1, n, r => by rw [Nat.add_right_comm, drop, drop, drop_add m n]

theorem next_drop (r : Random) (i : Nat) : (r.drop i).next = (r.value i, r.drop (i + 1)) := by
  rw [drop_add, value]
  rfl

theorem value_drop (r : Random) (i j : Nat) : (r.drop i).value j = r.value (i + j) := by
  rw [value, value, drop_add]

end BenchSuite.Random
