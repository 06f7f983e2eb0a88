import BenchSuite.Proofs.Decimal.Sizes
import BenchSuite.Proofs.Json.Decimals
import BenchSuite.Proofs.Json.Numerals
/-!
# Numbers that are read after they were written

The text of a number that is not finite is refused, and so would be one that is too large to be scaled.  Up to
`2 ^ 128` no product is too large: the power of ten that is read is at most that of the first digit, and this is at most
38 (`isSome_toFloat?_float`).  So every finite single is read (`isSome_toFloat32?_float32`).
-/
namespace BenchSuite.Json

open Decimal

/-! ## Scaling -/

theorem isSome_scale_down : ∀ (fuel : Nat) (f : Float) {e : Int}, e < 0 → (scale fuel f e).isSome = true
  | 0, _, _, _ => rfl
  | fuel + 1, f, e, below => by
    rw [scale]
    split
    · rw [if_neg (by omega)]
      rfl
    · rename_i far
      split
      · rfl
      · rw [if_neg (by omega)]
        exact isSome_scale_down fuel _ (by omega)

theorem zero_mul_tenTo : ∀ e ≤ 38, ((0 : UInt64).toFloat * tenTo e).isInf = false := by decide +kernel

theorem isInf_mul_tenTo (u : UInt64) {e : Nat} (few : e ≤ 38) : (u.toFloat * tenTo e).isInf = false := by
  rcases eq_or_ne u 0 with rfl | some
  · exact zero_mul_tenTo e few
  · exact ((moderate_toFloat (k := 64) some u.toNat_lt.le).mul (moderate_tenTo few) (by omega)).isInf_eq

theorem isSome_scale (u : UInt64) {e : Int} (most : e ≤ 38) : (scale 8 u.toFloat e).isSome = true := by
  rcases Int.lt_or_le e 0 with below | above
  · exact isSome_scale_down 8 _ below
  · rw [scale, if_pos (by omega), if_pos above]
    dsimp only
    rw [isInf_mul_tenTo u (by omega), if_neg Bool.false_ne_true]
    rfl

/-- Digits behind the point only lower the power by which the digits are scaled. -/
theorem scaledDigits_le {n : Numeral} (fits : ofDigits n.whole < UInt64.size) : (scaledDigits n).2 ≤ powerOf n := by
  have whole := takeDigits_of_lt n.whole 0 (by omega)
  rw [scaledDigits, whole]
  dsimp only
  rw [if_pos rfl]
  omega

theorem isSome_numeralToFloat? {n : Numeral} (fits : ofDigits n.whole < UInt64.size) (most : powerOf n ≤ 38) :
    (numeralToFloat? n).isSome = true := by
  rw [numeralToFloat?, Option.isSome_map]
  exact isSome_scale _ ((scaledDigits_le fits).trans most)

/-! ## Numerals in a style -/

theorem powerOf_le {n : Numeral} {e : Int} (power : n.power = some (.ofInt e)) (most : e ≤ 38) : powerOf n ≤ 38 := by
  rcases Int.lt_or_le e 0 with below | above
  · rw [powerOf, power]
    simp only [PowerOfTen.ofInt, decide_eq_true below, if_true]
    omega
  · have fits : e.natAbs < UInt64.size := Nat.lt_of_le_of_lt (show e.natAbs ≤ 38 by omega) (by decide)
    rw [powerOf_ofInt power fits]
    exact most

/-- A number with its point in place has as many digits before the point as its size says. -/
theorem length_whole_inPlace (negative pointZero : Bool) (d : Scaled) {width : Nat} (some : 0 < width)
    (size : ((digitsOf d.digits).length : Int) + d.exponent ≤ width) :
    (Numeral.inPlace negative pointZero d).whole.length ≤ width := by
  rw [Numeral.inPlace]
  dsimp only
  split
  · exact some
  · rw [List.length_append, List.length_take, List.length_replicate]
    omega

theorem isSome_numeralToFloat?_ofScaled {style : Style} {low high : Int} (place : style.positional = some (low, high))
    (short : high ≤ 15) (negative : Bool) {d : Scaled} (most : (digitsOf d.digits).length - 1 + d.exponent ≤ 38) :
    (numeralToFloat? (.ofScaled style negative d)).isSome = true := by
  have fits {ds : List Digit} (few : ds.length ≤ 16) : ofDigits ds < UInt64.size :=
    calc ofDigits ds < 10 ^ ds.length := ofDigits_lt ds
      _ ≤ 10 ^ 16 := Nat.pow_le_pow_right (by decide) few
      _ < UInt64.size := by decide
  rw [Numeral.ofScaled, place]
  dsimp only
  split
  · refine isSome_numeralToFloat? (fits (length_whole_inPlace _ _ _ (by decide) (by omega))) ?_
    show (0 : Int) ≤ 38
    decide
  · refine isSome_numeralToFloat? (fits ?_) (powerOf_le rfl most)
    show ((digitsOf d.digits).take 1).length ≤ 16
    rw [List.length_take]
    omega

/-! ## The fewest digits -/

theorem shortest_cases (tie : Tie) (x : Binary) : shortest tie x = ⟨0, 0⟩ ∨
    0 < (shortest tie x).digits ∧ x.NearestTo (shortest tie x).value := by
  unfold shortest
  split
  · exact .inl rfl
  · rename_i some
    rcases firstHit_cases tie x 24 (coarsestGrid x) with none | ⟨d, k, hit, found⟩
    · rw [none]
      exact .inl rfl
    · rw [found, (value_strip 24 ⟨d, k⟩).1]
      exact .inr ⟨digits_strip_pos 24 (gridHit_pos some hit),
        (readsBack_iff (Nat.pos_of_ne_zero some) k d).1 (readsBack_gridHit hit)⟩

theorem pow_length_le {n : Nat} (pos : 0 < n) : 10 ^ ((digitsOf n).length - 1) ≤ n := by
  by_contra more
  rcases Nat.eq_zero_or_pos ((digitsOf n).length - 1) with one | some
  · rw [one] at more
    omega
  · have := length_digitsOf_le some (Nat.lt_of_not_le more)
    omega

/-- The first digit of a decimal is at a place below the decimal itself. -/
theorem pow_size_le {d : Scaled} (pos : 0 < d.digits) :
    (10 : ℚ) ^ (((digitsOf d.digits).length : Int) - 1 + d.exponent) ≤ d.value := by
  have some : 0 < (digitsOf d.digits).length := List.length_pos_of_ne_nil (digitsOf_ne_nil _)
  have first : (10 : ℚ) ^ (((digitsOf d.digits).length : Int) - 1) ≤ d.digits := by
    rw [show ((digitsOf d.digits).length : Int) - 1 = ((digitsOf d.digits).length - 1 : Nat) by omega, zpow_natCast]
    exact_mod_cast pow_length_le pos
  rw [zpow_add₀ (by norm_num), Scaled.value]
  exact mul_le_mul_of_nonneg_right first (zpow_pos (by norm_num) _).le

theorem size_shortest_le (tie : Tie) {x : Binary} (small : x.value ≤ 2 ^ 128) :
    ((digitsOf (shortest tie x).digits).length : Int) - 1 + (shortest tie x).exponent ≤ 38 := by
  rcases shortest_cases tie x with zero | ⟨pos, near⟩
  · rw [zero]
    decide
  · have ten : (1 : ℚ) < 10 := by norm_num
    have some : x.mantissa ≠ 0 := by
      intro none
      rw [shortest, if_pos none] at pos
      exact lt_irrefl 0 pos
    have full : (1 : ℚ) ≤ x.mantissa := by exact_mod_cast Nat.pos_of_ne_zero some
    have below : (10 : ℚ) ^ (((digitsOf (shortest tie x).digits).length : Int) - 1 + (shortest tie x).exponent) <
        10 ^ (39 : ℤ) :=
      calc _ ≤ (shortest tie x).value := pow_size_le pos
        _ ≤ (4 * x.mantissa + 2) * 2 ^ (x.exponent - 2) := near.2.1
        _ ≤ 6 * x.mantissa * 2 ^ (x.exponent - 2) := mul_le_mul_of_nonneg_right (by linarith) (Binary.step_pos _).le
        _ = 3 / 2 * (4 * x.mantissa * 2 ^ (x.exponent - 2)) := by ring
        _ = 3 / 2 * x.value := by rw [← Binary.mul_two_pow_eq, Binary.value]
        _ ≤ 3 / 2 * 2 ^ 128 := mul_le_mul_of_nonneg_left small (by norm_num)
        _ < 10 ^ (39 : ℤ) := by norm_num
    have := (zpow_lt_zpow_iff_right₀ ten).1 below
    omega

/-! ## Written and read -/

/-- **A double up to `2 ^ 128` is read** after it was written. -/
theorem isSome_toFloat?_float {x : Float} {b : Binary} (finite : readFloat x = .finite b) (small : b.value ≤ 2 ^ 128) :
    (float x).toFloat?.isSome = true := by
  rw [float, finite]
  exact isSome_numeralToFloat?_ofScaled rfl (by decide) _ (size_shortest_le _ small)

theorem value_le_of_decode {bits : Nat} {b : Binary} (h : Format.binary32.decode bits = .finite b) :
    b.value ≤ 2 ^ 128 := by
  have bounds : b.mantissa ≤ 2 ^ 24 ∧ b.exponent ≤ 104 := by
    unfold Format.decode at h
    simp only [Format.binary32, Nat.shiftRight_eq_div_pow, Nat.shiftLeft_eq, Nat.one_mul] at h
    split at h
    · split at h <;> cases h
    · split at h
      · obtain rfl := Reading.finite.inj h
        exact ⟨by dsimp only; omega, by norm_num⟩
      · obtain rfl := Reading.finite.inj h
        exact ⟨by dsimp only; omega, by dsimp only; omega⟩
  calc b.value ≤ 2 ^ 24 * 2 ^ (104 : ℤ) :=
        mul_le_mul (by exact_mod_cast bounds.1) (zpow_le_zpow_right₀ (by norm_num) bounds.2) (zpow_pos (by norm_num) _).le
          (by norm_num)
    _ = 2 ^ 128 := by norm_num

/-- **Every finite single is read** after it was written. -/
theorem isSome_toFloat32?_float32 {x : Float32} (h : x.isFinite = true) : (float32 x).toFloat32?.isSome = true := by
  obtain ⟨b, finite⟩ := (isFinite_float32_iff x).1 h
  have small : b.value ≤ 2 ^ 128 := value_le_of_decode finite
  rw [float32, finite]
  show (numeralToFloat32? (.ofScaled jsonStyle32 b.negative (shortest _ b))).isSome = true
  rw [numeralToFloat32?]
  split
  · rfl
  · rw [Option.isSome_map]
    exact isSome_numeralToFloat?_ofScaled rfl (by decide) _ (size_shortest_le _ small)

end BenchSuite.Json
