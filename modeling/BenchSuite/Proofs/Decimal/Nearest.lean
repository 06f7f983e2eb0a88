import BenchSuite.Decimal.Shortest
import Mathlib.Algebra.Order.Field.Power
import Mathlib.Tactic.Linarith
import Mathlib.Tactic.NormNum
import Mathlib.Tactic.Positivity
import Mathlib.Tactic.Ring
/-!
# The numbers that are nearest to a double

A double with a full mantissa stands for an interval around it (`NearestTo`).  The intervals of two such doubles
do not meet: of neighbours that share an end, one has an even mantissa and takes it (`eq_of_nearestTo`).
-/
namespace BenchSuite.Decimal.Binary

/-- Halfway to the next number towards zero. -/
def lowerEnd (x : Binary) : ℚ := (4 * x.mantissa - if x.narrowBelow then 1 else 2) * 2 ^ (x.exponent - 2)

/-- Halfway to the next number away from zero. -/
def upperEnd (x : Binary) : ℚ := (4 * x.mantissa + 2) * 2 ^ (x.exponent - 2)

/-- **The numbers to which `x` is nearest**, signs apart; an end of the interval belongs to it if the mantissa is
even. -/
def NearestTo (x : Binary) (v : ℚ) : Prop :=
  x.lowerEnd ≤ v ∧ v ≤ x.upperEnd ∧ (x.mantissa % 2 = 1 → x.lowerEnd < v ∧ v < x.upperEnd)

/-- A double whose mantissa fills all its bits, and whose next one towards zero does so too. -/
structure Normal (x : Binary) : Prop where
  low : 2 ^ 52 ≤ x.mantissa
  high : x.mantissa < 2 ^ 53
  lowest : -1074 < x.exponent
  highest : x.exponent ≤ 971
  narrow : x.narrowBelow = decide (x.mantissa = 2 ^ 52)

theorem Normal.pos {x : Binary} (h : x.Normal) : 0 < x.mantissa := Nat.lt_of_lt_of_le (Nat.two_pow_pos 52) h.low

theorem Normal.log2_mantissa {x : Binary} (h : x.Normal) : x.mantissa.log2 = 52 :=
  (Nat.log2_eq_iff h.pos.ne').2 ⟨h.low, h.high⟩

/-- The positive number of a mantissa and an exponent. -/
def positive (m : ℕ) (q : ℤ) : Binary := ⟨false, m, q, decide (m = 2 ^ 52)⟩

theorem normal_positive {m : ℕ} {q : ℤ} (low : 2 ^ 52 ≤ m) (high : m < 2 ^ 53) (lowest : -1074 < q)
    (highest : q ≤ 971) : (positive m q).Normal := ⟨low, high, lowest, highest, rfl⟩

/-- The number itself, its sign apart. -/
def value (x : Binary) : ℚ := x.mantissa * 2 ^ x.exponent

theorem step_pos (q : ℤ) : (0 : ℚ) < 2 ^ (q - 2) := zpow_pos (by norm_num) _

/-- The same number in quarters of the last bit. -/
theorem mul_two_pow_eq (y : ℚ) (q : ℤ) : y * 2 ^ q = 4 * y * 2 ^ (q - 2) := by
  rw [zpow_sub₀ (by norm_num : (2 : ℚ) ≠ 0)]
  ring

/-- In units of the last bit, the interval reaches half a unit to both sides, and only a quarter down from the least
mantissa. -/
theorem nearestTo_positive {m : ℕ} {q : ℤ} {y : ℚ} (least : m = 2 ^ 52 → (m : ℚ) - 1 / 4 ≤ y)
    (down : m ≠ 2 ^ 52 → (m : ℚ) - 1 / 2 ≤ y) (up : y ≤ m + 1 / 2)
    (ends : m % 2 = 1 → (m : ℚ) - 1 / 2 < y ∧ y < m + 1 / 2) : (positive m q).NearestTo (y * 2 ^ q) := by
  have pos := step_pos q
  have lower : (positive m q).lowerEnd = (4 * m - if m = 2 ^ 52 then 1 else 2) * 2 ^ (q - 2) := by
    simp [lowerEnd, positive]
  have upper : (positive m q).upperEnd = (4 * m + 2) * 2 ^ (q - 2) := rfl
  rw [NearestTo, lower, upper, mul_two_pow_eq y q]
  refine ⟨mul_le_mul_of_nonneg_right ?_ pos.le, mul_le_mul_of_nonneg_right (by linarith) pos.le, fun odd =>
    ⟨mul_lt_mul_of_pos_right ?_ pos, mul_lt_mul_of_pos_right (by linarith [ends odd]) pos⟩⟩
  · split
    · linarith [least ‹_›]
    · linarith [down ‹_›]
  · have more : m ≠ 2 ^ 52 := by
      rintro rfl
      norm_num [positive] at odd
    rw [if_neg more]
    linarith [ends odd]

theorem Normal.le_lowerEnd {x : Binary} (h : x.Normal) : (2 ^ 54 - 1) * (2 : ℚ) ^ (x.exponent - 2) ≤ x.lowerEnd := by
  refine mul_le_mul_of_nonneg_right ?_ (step_pos _).le
  rw [h.narrow]
  by_cases least : x.mantissa = 2 ^ 52
  · rw [least, decide_eq_true rfl, if_pos rfl]
    norm_num
  · have more : ((2 ^ 52 + 1 : ℕ) : ℚ) ≤ x.mantissa := by
      have := h.low
      exact_mod_cast (by omega : 2 ^ 52 + 1 ≤ x.mantissa)
    rw [decide_eq_false least, if_neg Bool.false_ne_true]
    push_cast at more
    linarith

theorem Normal.lowerEnd_of_lt {x : Binary} (h : x.Normal) (more : 2 ^ 52 < x.mantissa) :
    x.lowerEnd = (4 * x.mantissa - 2) * 2 ^ (x.exponent - 2) := by
  rw [lowerEnd, h.narrow, decide_eq_false (Nat.ne_of_gt more), if_neg Bool.false_ne_true]

theorem Normal.upperEnd_le {x : Binary} (h : x.Normal) : x.upperEnd ≤ (2 ^ 55 - 2) * (2 : ℚ) ^ (x.exponent - 2) := by
  refine mul_le_mul_of_nonneg_right ?_ (step_pos _).le
  have most : (x.mantissa : ℚ) ≤ 2 ^ 53 - 1 := by
    have := h.high
    have : x.mantissa + 1 ≤ 2 ^ 53 := this
    have : ((x.mantissa + 1 : ℕ) : ℚ) ≤ ((2 ^ 53 : ℕ) : ℚ) := by exact_mod_cast this
    push_cast at this
    linarith
  linarith

theorem NearestTo.lt_upperEnd {x : Binary} {v : ℚ} (near : x.NearestTo v) (odd : x.mantissa % 2 = 1) :
    v < x.upperEnd := (near.2.2 odd).2

/-- No number belongs to a double and to one with a larger exponent. -/
theorem Normal.not_nearestTo_of_exponent_lt {x y : Binary} (hx : x.Normal) (hy : y.Normal)
    (lt : x.exponent < y.exponent) {v : ℚ} (near : x.NearestTo v) : ¬ y.NearestTo v := by
  intro near'
  have pos := step_pos x.exponent
  have doubled : 2 * (2 : ℚ) ^ (x.exponent - 2) ≤ 2 ^ (y.exponent - 2) := by
    rw [mul_comm, ← zpow_add_one₀ (by norm_num : (2 : ℚ) ≠ 0)]
    exact zpow_le_zpow_right₀ (by norm_num) (by omega)
  have above : (2 ^ 55 - 2) * (2 : ℚ) ^ (x.exponent - 2) ≤ v :=
    calc (2 ^ 55 - 2) * (2 : ℚ) ^ (x.exponent - 2) = (2 ^ 54 - 1) * (2 * (2 : ℚ) ^ (x.exponent - 2)) := by ring
      _ ≤ (2 ^ 54 - 1) * (2 : ℚ) ^ (y.exponent - 2) := mul_le_mul_of_nonneg_left doubled (by norm_num)
      _ ≤ y.lowerEnd := hy.le_lowerEnd
      _ ≤ v := near'.1
  -- the largest mantissa is odd, so its interval is without its upper end
  rcases Nat.mod_two_eq_zero_or_one x.mantissa with even | odd
  · have most : (x.mantissa : ℚ) ≤ 2 ^ 53 - 2 := by
      have := hx.high
      have : ((x.mantissa + 2 : ℕ) : ℚ) ≤ ((2 ^ 53 : ℕ) : ℚ) := by exact_mod_cast (by omega : x.mantissa + 2 ≤ 2 ^ 53)
      push_cast at this
      linarith
    have below : x.upperEnd < (2 ^ 55 - 2) * (2 : ℚ) ^ (x.exponent - 2) :=
      mul_lt_mul_of_pos_right (by linarith) pos
    linarith [near.2.1]
  · linarith [near.lt_upperEnd odd, hx.upperEnd_le]

/-- No number belongs to a double and to one with the same exponent and a larger mantissa. -/
theorem Normal.not_nearestTo_of_mantissa_lt {x y : Binary} (hx : x.Normal) (hy : y.Normal)
    (same : x.exponent = y.exponent) (lt : x.mantissa < y.mantissa) {v : ℚ} (near : x.NearestTo v) :
    ¬ y.NearestTo v := by
  intro near'
  have pos := step_pos x.exponent
  have lower := hy.lowerEnd_of_lt (Nat.lt_of_le_of_lt hx.low lt)
  rw [← same] at lower
  have next : (x.mantissa : ℚ) + 1 ≤ y.mantissa := by exact_mod_cast lt
  have meet : x.upperEnd ≤ y.lowerEnd := by
    rw [lower]
    exact mul_le_mul_of_nonneg_right (by linarith) pos.le
  rcases Nat.mod_two_eq_zero_or_one x.mantissa with even | odd
  · rcases Nat.mod_two_eq_zero_or_one y.mantissa with even' | odd'
    · have next : ((x.mantissa + 2 : ℕ) : ℚ) ≤ y.mantissa := by
        exact_mod_cast (by omega : x.mantissa + 2 ≤ y.mantissa)
      push_cast at next
      have apart : x.upperEnd < y.lowerEnd := by
        rw [lower]
        exact mul_lt_mul_of_pos_right (by linarith) pos
      linarith [near.2.1, near'.1]
    · linarith [near.2.1, (near'.2.2 odd').1]
  · linarith [near.lt_upperEnd odd, near'.1]

/-- **A number is nearest to one double only.** -/
theorem Normal.eq_of_nearestTo {x y : Binary} (hx : x.Normal) (hy : y.Normal) {v : ℚ} (near : x.NearestTo v)
    (near' : y.NearestTo v) : x.mantissa = y.mantissa ∧ x.exponent = y.exponent := by
  rcases lt_trichotomy x.exponent y.exponent with lt | same | gt
  · exact absurd near' (hx.not_nearestTo_of_exponent_lt hy lt near)
  · rcases lt_trichotomy x.mantissa y.mantissa with lt | eq | gt
    · exact absurd near' (hx.not_nearestTo_of_mantissa_lt hy same lt near)
    · exact ⟨eq, same⟩
    · exact absurd near (hy.not_nearestTo_of_mantissa_lt hx same.symm gt near')
  · exact absurd near (hy.not_nearestTo_of_exponent_lt hx gt near')

theorem Normal.ext_of_nearestTo {x y : Binary} (hx : x.Normal) (hy : y.Normal) {v : ℚ} (near : x.NearestTo v)
    (near' : y.NearestTo v) (sign : x.negative = y.negative) : x = y := by
  obtain ⟨mantissa, exponent⟩ := hx.eq_of_nearestTo hy near near'
  have narrow : x.narrowBelow = y.narrowBelow := by rw [hx.narrow, hy.narrow, mantissa]
  cases x
  cases y
  simp_all

/-- **A double is nearest to itself.** -/
theorem nearestTo_value (x : Binary) : x.NearestTo x.value := by
  have pos := step_pos x.exponent
  have lower : x.lowerEnd < x.value := by
    rw [value, mul_two_pow_eq]
    refine mul_lt_mul_of_pos_right ?_ pos
    split <;> linarith
  have upper : x.value < x.upperEnd := by
    rw [value, mul_two_pow_eq]
    exact mul_lt_mul_of_pos_right (by linarith) pos
  exact ⟨lower.le, upper.le, fun _ => ⟨lower, upper⟩⟩

theorem NearestTo.between {x : Binary} {u v w : ℚ} (low : x.NearestTo u) (high : x.NearestTo w) (above : u ≤ v)
    (below : v ≤ w) : x.NearestTo v :=
  ⟨low.1.trans above, below.trans high.2.1, fun odd =>
    ⟨(low.2.2 odd).1.trans_le above, below.trans_lt (high.2.2 odd).2⟩⟩

/-- The interval is narrow. -/
theorem NearestTo.le_mul {x : Binary} (h : x.Normal) {u v : ℚ} (low : x.NearestTo u) (high : x.NearestTo v) :
    v ≤ 9 / 8 * u := by
  have full : ((2 ^ 52 : ℕ) : ℚ) ≤ x.mantissa := by exact_mod_cast h.low
  push_cast at full
  have wide : (4 * x.mantissa + 2 : ℚ) ≤ 9 / 8 * (4 * x.mantissa - if x.narrowBelow then 1 else 2) := by
    split <;> linarith
  calc v ≤ (4 * x.mantissa + 2) * 2 ^ (x.exponent - 2) := high.2.1
    _ ≤ 9 / 8 * (4 * x.mantissa - if x.narrowBelow then 1 else 2) * 2 ^ (x.exponent - 2) :=
      mul_le_mul_of_nonneg_right wide (step_pos _).le
    _ = 9 / 8 * x.lowerEnd := mul_assoc ..
    _ ≤ 9 / 8 * u := mul_le_mul_of_nonneg_left low.1 (by norm_num)

end BenchSuite.Decimal.Binary
