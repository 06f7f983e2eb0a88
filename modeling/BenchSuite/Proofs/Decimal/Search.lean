import BenchSuite.Proofs.Decimal.Nearest
/-!
# The search for the fewest digits

A grid point reads back as a double just if the double is nearest to it (`readsBack_iff`).  A grid that has such a
point has one beside the double (`isSome_gridHit`), so the search goes no finer than the coarsest such grid
(`shortest_of_nearestTo`).
-/
namespace BenchSuite.Decimal

/-- The number that digits on a grid stand for. -/
def Scaled.value (d : Scaled) : ℚ := d.digits * 10 ^ d.exponent

/-! ## One grid -/

theorem pow_toNat {b : ℚ} (some : b ≠ 0) (k : ℤ) : b ^ k.toNat = b ^ k * b ^ (-k).toNat := by
  rcases Int.le_total 0 k with up | down
  · rw [Int.toNat_of_nonpos (by omega : -k ≤ 0), pow_zero, mul_one, ← zpow_natCast, Int.toNat_of_nonneg up]
  · rw [Int.toNat_of_nonpos down, pow_zero, ← zpow_natCast, Int.toNat_of_nonneg (by omega), ← zpow_add₀ some,
      add_neg_cancel, zpow_zero]

theorem gridScale_ratio (q k : ℤ) : ((gridScale q k).1 : ℚ) * 2 ^ (q - 2) = 10 ^ k * (gridScale q k).2 := by
  have up : (gridScale q k).1 = 10 ^ k.toNat * 2 ^ (2 - q).toNat := Nat.shiftLeft_eq _ _
  have down : (gridScale q k).2 = 10 ^ (-k).toNat * 2 ^ (q - 2).toNat := Nat.shiftLeft_eq _ _
  rw [up, down]
  push_cast
  rw [pow_toNat (by norm_num) k, pow_toNat (by norm_num : (2 : ℚ) ≠ 0) (q - 2), neg_sub]
  ring

theorem gridScale_pos (q k : ℤ) : 0 < (gridScale q k).2 := by
  have ten : 0 < Nat.pow 10 (-k).toNat := Nat.pow_pos (show 0 < 10 by decide)
  show 0 < Nat.pow 10 (-k).toNat <<< (q - 2).toNat
  rw [Nat.shiftLeft_eq]
  exact Nat.mul_pos ten (Nat.pow_pos (show 0 < 2 by decide))

theorem gridScale_left_pos (q k : ℤ) : 0 < (gridScale q k).1 := by
  have ten : 0 < Nat.pow 10 k.toNat := Nat.pow_pos (show 0 < 10 by decide)
  show 0 < Nat.pow 10 k.toNat <<< (2 - q).toNat
  rw [Nat.shiftLeft_eq]
  exact Nat.mul_pos ten (Nat.pow_pos (show 0 < 2 by decide))

/-- Grid points and quarter steps are compared as whole numbers. -/
theorem compare_steps (q k : ℤ) (steps d : ℕ) :
    (steps * (gridScale q k).2 ≤ d * (gridScale q k).1 ↔ (steps : ℚ) * 2 ^ (q - 2) ≤ d * 10 ^ k) ∧
    (d * (gridScale q k).1 ≤ steps * (gridScale q k).2 ↔ (d : ℚ) * 10 ^ k ≤ steps * 2 ^ (q - 2)) := by
  have pos := Binary.step_pos q
  have pos' : (0 : ℚ) < (gridScale q k).2 := by exact_mod_cast gridScale_pos q k
  have left : ((steps * (gridScale q k).2 : ℕ) : ℚ) * 2 ^ (q - 2) = steps * 2 ^ (q - 2) * (gridScale q k).2 := by
    push_cast
    ring
  have right : ((d * (gridScale q k).1 : ℕ) : ℚ) * 2 ^ (q - 2) = d * 10 ^ k * (gridScale q k).2 := by
    push_cast
    rw [mul_assoc, gridScale_ratio, mul_assoc]
  constructor
  · rw [← Nat.cast_le (α := ℚ), ← mul_le_mul_iff_left₀ pos, left, right, mul_le_mul_iff_left₀ pos']
  · rw [← Nat.cast_le (α := ℚ), ← mul_le_mul_iff_left₀ pos, left, right, mul_le_mul_iff_left₀ pos']

/-- **A grid point reads back as a double just if the double is nearest to it.** -/
theorem readsBack_iff {x : Binary} (pos : 0 < x.mantissa) (k : ℤ) (d : ℕ) :
    readsBack x (gridScale x.exponent k) d = true ↔ x.NearestTo (d * 10 ^ k) := by
  have lower : x.lowerEnd = ((4 * x.mantissa - if x.narrowBelow then 1 else 2 : ℕ) : ℚ) * 2 ^ (x.exponent - 2) := by
    rw [Binary.lowerEnd, Nat.cast_sub (by split <;> omega)]
    push_cast
    rfl
  have upper : x.upperEnd = ((4 * x.mantissa + 2 : ℕ) : ℚ) * 2 ^ (x.exponent - 2) := by
    rw [Binary.upperEnd]
    push_cast
    rfl
  rw [Binary.NearestTo, lower, upper, readsBack]
  obtain ⟨le, ge⟩ := compare_steps x.exponent k (4 * x.mantissa - if x.narrowBelow then 1 else 2) d
  obtain ⟨le', ge'⟩ := compare_steps x.exponent k (4 * x.mantissa + 2) d
  split
  · rename_i even
    rw [Bool.and_eq_true, decide_eq_true_iff, decide_eq_true_iff, le, ge']
    exact ⟨fun h => ⟨h.1, h.2, fun odd => by omega⟩, fun h => ⟨h.1, h.2.1⟩⟩
  · rename_i odd
    rw [Bool.and_eq_true, decide_eq_true_iff, decide_eq_true_iff, ← not_le, ← not_le, ge, le', not_le, not_le]
    exact ⟨fun h => ⟨h.1.le, h.2.le, fun _ => h⟩, fun h => h.2.2 (by omega)⟩

/-- **A grid with a point that reads back has one beside the number.** -/
theorem isSome_gridHit (tie : Tie) {x : Binary} (pos : 0 < x.mantissa) {k : ℤ} {d : ℕ}
    (near : x.NearestTo (d * 10 ^ k)) : (gridHit tie x k).isSome = true := by
  have quarters : x.value = ((4 * x.mantissa : ℕ) : ℚ) * 2 ^ (x.exponent - 2) := by
    rw [Binary.value, Binary.mul_two_pow_eq]
    push_cast
    rfl
  unfold gridHit
  dsimp only
  generalize hb : 4 * x.mantissa * (gridScale x.exponent k).2 / (gridScale x.exponent k).1 = below
  have down : (below : ℚ) * 10 ^ k ≤ x.value := by
    rw [quarters, ← (compare_steps x.exponent k _ below).2, ← hb]
    exact Nat.div_mul_le_self _ _
  have up : x.value ≤ ((below + 1 : ℕ) : ℚ) * 10 ^ k := by
    have above :=
      (Nat.lt_mul_div_succ (4 * x.mantissa * (gridScale x.exponent k).2) (gridScale_left_pos x.exponent k)).le
    rwa [hb, Nat.mul_comm (gridScale x.exponent k).1, (compare_steps x.exponent k _ (below + 1)).1, ← quarters] at above
  have ten : (0 : ℚ) < 10 ^ k := zpow_pos (by norm_num) k
  have either : readsBack x (gridScale x.exponent k) below = true ∨
      readsBack x (gridScale x.exponent k) (below + 1) = true := by
    rw [readsBack_iff pos, readsBack_iff pos]
    rcases Nat.lt_or_ge below d with above | above
    · refine .inr (x.nearestTo_value.between near up (mul_le_mul_of_nonneg_right ?_ ten.le))
      exact_mod_cast above
    · refine .inl (near.between x.nearestTo_value (mul_le_mul_of_nonneg_right ?_ ten.le) down)
      exact_mod_cast above
  cases first : readsBack x (gridScale x.exponent k) below <;>
    cases second : readsBack x (gridScale x.exponent k) (below + 1)
  · rw [first, second] at either
    simp at either
  · rfl
  · rfl
  · simp only
    split
    · rfl
    · split
      · rfl
      · cases tie <;> rfl

theorem readsBack_gridHit {tie : Tie} {x : Binary} {k : Int} {d : Nat} (hit : gridHit tie x k = some d) :
    readsBack x (gridScale x.exponent k) d = true := by
  unfold gridHit at hit
  dsimp only at hit
  generalize 4 * x.mantissa * (gridScale x.exponent k).2 / (gridScale x.exponent k).1 = below at hit
  -- whatever rule breaks a tie, only a neighbour that reads back is taken
  cases down : readsBack x (gridScale x.exponent k) below <;>
    cases up : readsBack x (gridScale x.exponent k) (below + 1) <;> simp only [down, up] at hit
  · cases hit
  · exact Option.some.inj hit ▸ up
  · exact Option.some.inj hit ▸ down
  · have either : d = below ∨ d = below + 1 := by
      split at hit
      · exact .inl (Option.some.inj hit).symm
      · split at hit
        · exact .inr (Option.some.inj hit).symm
        · cases tie with
          | up => exact .inr (Option.some.inj hit).symm
          | toEven =>
            have hit := Option.some.inj hit
            split at hit
            · exact .inl hit.symm
            · exact .inr hit.symm
    rcases either with rfl | rfl
    · exact down
    · exact up

/-! ## From grid to grid -/

theorem firstHit_eq (tie : Tie) {x : Binary} {k₀ : ℤ} (hit : (gridHit tie x k₀).isSome = true) : ∀ (fuel : ℕ) {k : ℤ},
    k₀ ≤ k → k < k₀ + fuel → ∃ k', k₀ ≤ k' ∧ ∃ d, gridHit tie x k' = some d ∧ firstHit tie x fuel k = ⟨d, k'⟩
  | 0, k, low, high => by omega
  | fuel + 1, k, low, high => by
    rw [firstHit]
    cases here : gridHit tie x k with
    | some d => exact ⟨k, low, d, here, rfl⟩
    | none =>
      have finer : k ≠ k₀ := by
        rintro rfl
        rw [here] at hit
        cases hit
      exact firstHit_eq tie hit fuel (by omega) (by omega)

theorem value_strip : ∀ (fuel : ℕ) (d : Scaled), (d.strip fuel).value = d.value ∧ d.exponent ≤ (d.strip fuel).exponent
  | 0, d => ⟨rfl, le_rfl⟩
  | fuel + 1, d => by
    rw [Scaled.strip]
    split
    · rename_i more
      obtain ⟨value, exponent⟩ := value_strip fuel ⟨d.digits / 10, d.exponent + 1⟩
      have tens : ((d.digits / 10 : ℕ) : ℚ) * 10 = d.digits := by
        exact_mod_cast Nat.div_mul_cancel (Nat.dvd_of_mod_eq_zero more.2)
      refine ⟨?_, by dsimp only at exponent; omega⟩
      rw [value, Scaled.value, Scaled.value, zpow_add_one₀ (by norm_num : (10 : ℚ) ≠ 0), ← tens]
      ring
    · exact ⟨rfl, le_rfl⟩

/-! ## The first grid -/

theorem pow_le_pow_of_ratio {a b p r : ℕ} (pos : 0 < b) (root : p ≠ 0) (ratio : a ^ p ≤ b ^ r) {s t : ℕ}
    (h : r * s ≤ p * t) : a ^ s ≤ b ^ t := by
  refine (Nat.pow_le_pow_iff_left root).1 ?_
  calc (a ^ s) ^ p = (a ^ p) ^ s := Nat.pow_right_comm _ _ _
    _ ≤ (b ^ r) ^ s := Nat.pow_le_pow_left ratio s
    _ = b ^ (r * s) := (Nat.pow_mul ..).symm
    _ ≤ b ^ (p * t) := Nat.pow_le_pow_right pos h
    _ = (b ^ t) ^ p := by rw [Nat.mul_comm, Nat.pow_mul]

-- 0.30103 is the logarithm of 2 to five places
theorem two_pow_le_ten_pow {s t : ℕ} (h : 30103 * s ≤ 100000 * t) : 2 ^ s ≤ 10 ^ t :=
  pow_le_pow_of_ratio (by decide) (by decide) (show 2 ^ 100000 ≤ 10 ^ 30103 by decide +kernel) h

theorem ten_pow_le_two_pow {s t : ℕ} (h : 100001 * t ≤ 30103 * s) : 10 ^ t ≤ 2 ^ s :=
  pow_le_pow_of_ratio (by decide) (by decide) (show 10 ^ 30103 ≤ 2 ^ 100001 by decide +kernel) h

theorem zpow_eq_div {b : ℚ} (some : b ≠ 0) (k : ℤ) : b ^ k = b ^ k.toNat / b ^ (-k).toNat := by
  rw [pow_toNat some k, mul_div_cancel_right₀ _ (pow_ne_zero _ some)]

theorem zpow_le_zpow_of_pow {a b : ℕ} (pos : 0 < a) (pos' : 0 < b) {s t : ℤ} (up : a ^ s.toNat ≤ b ^ t.toNat)
    (down : b ^ (-t).toNat ≤ a ^ (-s).toNat) : (a : ℚ) ^ s ≤ (b : ℚ) ^ t := by
  have pos'' : (0 : ℚ) < b := by exact_mod_cast pos'
  rw [zpow_eq_div (by exact_mod_cast pos.ne') s, zpow_eq_div pos''.ne' t]
  exact div_le_div₀ (by positivity) (by exact_mod_cast up) (by positivity) (by exact_mod_cast down)

theorem firstHit_cases (tie : Tie) (x : Binary) : ∀ (fuel : ℕ) (k : ℤ), firstHit tie x fuel k = ⟨0, 0⟩ ∨
    ∃ d k', gridHit tie x k' = some d ∧ firstHit tie x fuel k = ⟨d, k'⟩
  | 0, _ => .inl rfl
  | fuel + 1, k => by
    rw [firstHit]
    split
    · rename_i d hit
      exact .inr ⟨d, k, hit, rfl⟩
    · exact firstHit_cases tie x fuel _

/-- The search starts above a double with a full mantissa, and not far. -/
theorem coarsestGrid_bounds {x : Binary} (h : x.Normal) : (2 : ℚ) ^ (x.exponent + 53) ≤ 10 ^ coarsestGrid x ∧
    (10 : ℚ) ^ (coarsestGrid x - 3) ≤ 2 ^ (x.exponent + 51) := by
  obtain ⟨-, -, lowest, highest, -⟩ := id h
  rw [coarsestGrid, h.log2_mantissa]
  constructor
  · exact_mod_cast zpow_le_zpow_of_pow (a := 2) (b := 10) (by decide) (by decide) (two_pow_le_ten_pow (by omega))
      (ten_pow_le_two_pow (by omega))
  · exact_mod_cast zpow_le_zpow_of_pow (a := 10) (b := 2) (by decide) (by decide) (ten_pow_le_two_pow (by omega))
      (two_pow_le_ten_pow (by omega))

/-- **The search goes no finer than it must**, and finds a decimal to which the double is nearest. -/
theorem shortest_of_nearestTo (tie : Tie) {x : Binary} (h : x.Normal) {n : ℕ} (pos : 0 < n) (few : n < 10 ^ 20) {k : ℤ}
    (near : x.NearestTo (n * 10 ^ k)) :
    x.NearestTo (shortest tie x).value ∧ k ≤ (shortest tie x).exponent := by
  obtain ⟨above, below⟩ := coarsestGrid_bounds h
  have ten : (1 : ℚ) < 10 := by norm_num
  have least : (10 : ℚ) ^ k ≤ n * 10 ^ k :=
    le_mul_of_one_le_left (zpow_pos (by norm_num) k).le (by exact_mod_cast pos)
  have most : (n : ℚ) * 10 ^ k < 10 ^ (20 + k) := by
    rw [zpow_add₀ (by norm_num)]
    exact mul_lt_mul_of_pos_right (by exact_mod_cast few) (zpow_pos (by norm_num) k)
  have step := Binary.step_pos x.exponent
  have low : k < coarsestGrid x := by
    refine (zpow_lt_zpow_iff_right₀ ten).1 ?_
    calc (10 : ℚ) ^ k ≤ x.upperEnd := least.trans near.2.1
      _ ≤ (2 ^ 55 - 2) * 2 ^ (x.exponent - 2) := h.upperEnd_le
      _ < 2 ^ 55 * 2 ^ (x.exponent - 2) := mul_lt_mul_of_pos_right (by norm_num) step
      _ = 2 ^ (x.exponent + 53) := by
        rw [← zpow_natCast, ← zpow_add₀ (by norm_num)]
        congr 1
        omega
      _ ≤ 10 ^ coarsestGrid x := above
  have high : coarsestGrid x - 3 < 20 + k := by
    refine (zpow_lt_zpow_iff_right₀ ten).1 ?_
    calc (10 : ℚ) ^ (coarsestGrid x - 3) ≤ 2 ^ (x.exponent + 51) := below
      _ = 2 ^ 53 * 2 ^ (x.exponent - 2) := by
        rw [← zpow_natCast, ← zpow_add₀ (by norm_num)]
        congr 1
        omega
      _ ≤ (2 ^ 54 - 1) * 2 ^ (x.exponent - 2) := mul_le_mul_of_nonneg_right (by norm_num) step.le
      _ ≤ x.lowerEnd := h.le_lowerEnd
      _ ≤ n * 10 ^ k := near.1
      _ < 10 ^ (20 + k) := most
  obtain ⟨k', coarse, d, hit, first⟩ := firstHit_eq tie (isSome_gridHit tie h.pos near) 24 low.le (by omega)
  obtain ⟨value, exponent⟩ := value_strip 24 ⟨d, k'⟩
  rw [shortest, if_neg h.pos.ne', first, value]
  exact ⟨(readsBack_iff h.pos k' d).1 (readsBack_gridHit hit), coarse.trans exponent⟩

end BenchSuite.Decimal
