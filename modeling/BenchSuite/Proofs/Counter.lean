import BenchSuite.Fault
/-!
# Counters

A run counts in a word, and fails where the word is full.  What it has counted is followed as a number without a bound
(`counted`), so that a fault of the counter is said once, at the end, and not at every step.
-/
namespace BenchSuite

variable {n : Nat}

/-- A number that was counted, when the counter has room for it. -/
def counted (n : Nat) : Checked UInt64 := if n < UInt64.size then .ok (.ofNat n) else .error .overflow

theorem counted_succ (n : Nat) : (counted n >>= Checked.succ) = counted (n + 1) := by
  unfold counted
  by_cases room : n < UInt64.size
  · have toNat : (UInt64.ofNat n).toNat = n := UInt64.toNat_ofNat_of_lt' room
    rw [if_pos room, Checked.ok_bind, Checked.succ, toNat, UInt64.ofNat_add]
    rfl
  · rw [if_neg room, if_neg (by omega)]
    rfl

theorem counted_of_lt (room : n < UInt64.size) : ∃ count, counted n = .ok count ∧ count.toNat = n :=
  ⟨_, if_pos room, UInt64.toNat_ofNat_of_lt' room⟩

theorem counted_toNat (count : UInt64) : counted count.toNat = .ok count := by
  rw [counted, if_pos count.toNat_lt_size, UInt64.ofNat_toNat]

end BenchSuite
