import BenchSuite.Proofs.Decimal.Rounding
/-!
# Doubles of moderate size

A double that is nearest to a number of moderate size is of moderate size itself, so products and quotients of such doubles
stay away from the ends of the range (`Moderate.mul`, `Moderate.div`).  Words, powers of ten and counts are of moderate
size.
-/
namespace BenchSuite.Decimal

open Float.Model (UnpackedFloat)

/-- **A positive double from `2 ^ -k` to `2 ^ k`.** -/
def Moderate (k : ℕ) (f : Float) : Prop :=
  ∃ x : Binary, x.Normal ∧ x.negative = false ∧ (2 : ℚ) ^ (-(k : ℤ)) ≤ x.value ∧ x.value ≤ 2 ^ (k : ℤ) ∧ f = x.toFloat

theorem Binary.Normal.exponent_range {x : Binary} (h : x.Normal) {k : ℕ} (low : (2 : ℚ) ^ (-(k : ℤ)) ≤ x.value)
    (high : x.value ≤ 2 ^ (k : ℤ)) : -(k : ℤ) - 53 < x.exponent ∧ x.exponent ≤ k - 52 := by
  have two : (1 : ℚ) < 2 := by norm_num
  have unit : (0 : ℚ) < 2 ^ x.exponent := zpow_pos (by norm_num) _
  have least : (2 : ℚ) ^ (52 + x.exponent) ≤ x.value := by
    rw [zpow_add₀ (by norm_num), Binary.value]
    exact mul_le_mul_of_nonneg_right (by exact_mod_cast h.low) unit.le
  have most : x.value < (2 : ℚ) ^ (53 + x.exponent) := by
    rw [zpow_add₀ (by norm_num), Binary.value]
    exact mul_lt_mul_of_pos_right (by exact_mod_cast h.high) unit
  have above := (zpow_lt_zpow_iff_right₀ two).1 (low.trans_lt most)
  have below := (zpow_le_zpow_iff_right₀ two).1 (least.trans high)
  omega

/-- A number between two bounds has the double nearest to it between the next powers of two. -/
theorem moderate_of_nearestTo {z : Binary} (h : z.Normal) (up : z.negative = false) {v : ℚ} (near : z.NearestTo v) {k : ℕ}
    (low : (2 : ℚ) ^ (-(k : ℤ)) ≤ v) (high : v ≤ 2 ^ (k : ℤ)) : Moderate (k + 1) z.toFloat := by
  have below := near.le_mul h z.nearestTo_value
  have above := z.nearestTo_value.le_mul h near
  have doubled : (2 : ℚ) ^ ((k + 1 : ℕ) : ℤ) = 2 * 2 ^ (k : ℤ) := by
    rw [Nat.cast_succ, zpow_add_one₀ (by norm_num), mul_comm]
  have halved : (2 : ℚ) ^ (-((k + 1 : ℕ) : ℤ)) = 2 ^ (-(k : ℤ)) / 2 := by
    rw [zpow_neg, doubled, mul_inv, zpow_neg, div_eq_inv_mul]
  have some : (0 : ℚ) < 2 ^ (-(k : ℤ)) := zpow_pos (by norm_num) _
  refine ⟨z, h, up, ?_, ?_, rfl⟩
  · rw [halved]
    linarith
  · rw [doubled]
    linarith

namespace Moderate

variable {j k : ℕ} {f g : Float}

theorem pow_neg_add (j k : ℕ) : (2 : ℚ) ^ (-((j + k : ℕ) : ℤ)) = 2 ^ (-(j : ℤ)) * 2 ^ (-(k : ℤ)) := by
  rw [← zpow_add₀ (by norm_num)]
  congr 1
  omega

theorem pow_add_natCast (j k : ℕ) : (2 : ℚ) ^ ((j + k : ℕ) : ℤ) = 2 ^ (j : ℤ) * 2 ^ (k : ℤ) := by
  rw [← zpow_add₀ (by norm_num)]
  congr 1

theorem mul (hf : Moderate j f) (hg : Moderate k g) (small : j + k ≤ 1000) : Moderate (j + k + 1) (f * g) := by
  obtain ⟨x, hx, positive, low, high, rfl⟩ := hf
  obtain ⟨y, hy, positive', low', high', rfl⟩ := hg
  have range := hx.exponent_range low high
  have range' := hy.exponent_range low' high'
  have some : (0 : ℚ) < 2 ^ (-(j : ℤ)) ∧ (0 : ℚ) < 2 ^ (-(k : ℤ)) := ⟨zpow_pos (by norm_num) _, zpow_pos (by norm_num) _⟩
  obtain ⟨z, hz, near, up, product⟩ := toFloat_mul_toFloat hx hy positive positive' (by omega) (by omega)
  rw [product]
  refine moderate_of_nearestTo hz up near ?_ ?_
  · rw [pow_neg_add]
    exact mul_le_mul low low' some.2.le (some.1.le.trans low)
  · rw [pow_add_natCast]
    exact mul_le_mul high high' (some.2.le.trans low') (zpow_pos (by norm_num) _).le

theorem div (hf : Moderate j f) (hg : Moderate k g) (small : j + k ≤ 900) : Moderate (j + k + 1) (f / g) := by
  obtain ⟨x, hx, positive, low, high, rfl⟩ := hf
  obtain ⟨y, hy, positive', low', high', rfl⟩ := hg
  have range := hx.exponent_range low high
  have range' := hy.exponent_range low' high'
  have some : (0 : ℚ) < 2 ^ (-(j : ℤ)) ∧ (0 : ℚ) < 2 ^ (-(k : ℤ)) := ⟨zpow_pos (by norm_num) _, zpow_pos (by norm_num) _⟩
  have below : (0 : ℚ) < y.value := some.2.trans_le low'
  have unit : (2 : ℚ) ^ (-(k : ℤ)) * 2 ^ (k : ℤ) = 1 := by rw [← zpow_add₀ (by norm_num), neg_add_cancel, zpow_zero]
  obtain ⟨z, hz, near, up, quotient⟩ := toFloat_div_toFloat hx hy positive positive' (by omega) (by omega)
  rw [quotient]
  refine moderate_of_nearestTo hz up near ?_ ?_
  · rw [pow_neg_add, le_div_iff₀ below]
    calc (2 : ℚ) ^ (-(j : ℤ)) * 2 ^ (-(k : ℤ)) * y.value ≤ 2 ^ (-(j : ℤ)) * 2 ^ (-(k : ℤ)) * 2 ^ (k : ℤ) :=
          mul_le_mul_of_nonneg_left high' (mul_pos some.1 some.2).le
      _ = 2 ^ (-(j : ℤ)) := by rw [mul_assoc, unit, mul_one]
      _ ≤ x.value := low
  · rw [pow_add_natCast, div_le_iff₀ below]
    calc x.value ≤ 2 ^ (j : ℤ) := high
      _ = 2 ^ (j : ℤ) * 2 ^ (k : ℤ) * 2 ^ (-(k : ℤ)) := by rw [mul_assoc, mul_comm (2 ^ (k : ℤ)), unit, mul_one]
      _ ≤ 2 ^ (j : ℤ) * 2 ^ (k : ℤ) * y.value := mul_le_mul_of_nonneg_left low' (by positivity)

theorem readFloat_eq (h : Moderate k f) : ∃ x : Binary, x.Normal ∧ x.value ≤ 2 ^ k ∧ readFloat f = .finite x := by
  obtain ⟨x, normal, -, -, high, rfl⟩ := h
  exact ⟨x, normal, by exact_mod_cast high, readFloat_toFloat normal⟩

theorem isInf_eq (h : Moderate k f) : f.isInf = false := by
  obtain ⟨x, normal, -, -, -, rfl⟩ := h
  show x.toFloat.toModel.unpack.isInf = false
  rw [unpack_toFloat normal]
  rfl

theorem zero_div (h : Moderate k f) : 0.0 / f = 0.0 := by
  obtain ⟨x, normal, up, -, -, rfl⟩ := h
  have none : (0.0 : Float).toModel.unpack = .zero .positive := by rfl
  show Float.ofModel (.pack (UnpackedFloat.div .binary64 (0.0 : Float).toModel.unpack x.toFloat.toModel.unpack)) = _
  rw [none, unpack_toFloat normal, Binary.sign, up]
  rfl

end Moderate

/-! ## Words and powers of ten -/

theorem moderate_toFloat {u : UInt64} (some : u ≠ 0) {k : ℕ} (fits : u.toNat ≤ 2 ^ k) : Moderate (k + 1) u.toFloat := by
  have pos : 0 < u.toNat := Nat.pos_of_ne_zero fun zero => some (UInt64.toNat_inj.1 zero)
  obtain ⟨z, hz, near, up, word⟩ := toFloat_nearestTo pos u.toNat_lt
  rw [UInt64.ofNat_toNat] at word
  rw [word]
  refine moderate_of_nearestTo hz up near ?_ ?_
  · exact (zpow_le_one_of_nonpos₀ (by norm_num) (by omega)).trans (by exact_mod_cast pos)
  · exact_mod_cast fits

theorem tenTo_words : ∀ e ≤ 38, (match readFloat (Json.tenTo e) with
    | .finite x => decide (2 ^ 52 ≤ x.mantissa ∧ x.mantissa < 2 ^ 53 ∧ -52 ≤ x.exponent ∧ x.exponent + 52 ≤ 4 * e ∧
        x.narrowBelow = decide (x.mantissa = 2 ^ 52) ∧ x.negative = false ∧ Json.tenTo e = x.toFloat)
    | _ => false) = true := by
  decide +kernel

-- sixteen is more than ten
theorem moderate_tenTo {e : ℕ} (few : e ≤ 38) : Moderate (4 * e + 1) (Json.tenTo e) := by
  have word := tenTo_words e few
  split at word
  · rename_i x _
    obtain ⟨low, high, least, most, narrow, up, same⟩ := of_decide_eq_true word
    have two : (1 : ℚ) ≤ 2 := by norm_num
    have normal : x.Normal := ⟨low, high, by omega, by omega, narrow⟩
    have unit : (0 : ℚ) < 2 ^ x.exponent := zpow_pos (by norm_num) _
    refine ⟨x, normal, up, ?_, ?_, same⟩
    · calc (2 : ℚ) ^ (-((4 * e + 1 : ℕ) : ℤ)) ≤ 2 ^ (52 + x.exponent) := zpow_le_zpow_right₀ two (by omega)
        _ = 2 ^ (52 : ℤ) * 2 ^ x.exponent := zpow_add₀ (by norm_num) _ _
        _ ≤ x.mantissa * 2 ^ x.exponent := mul_le_mul_of_nonneg_right (by exact_mod_cast low) unit.le
    · calc (x.mantissa : ℚ) * 2 ^ x.exponent ≤ 2 ^ (53 : ℤ) * 2 ^ x.exponent :=
            mul_le_mul_of_nonneg_right (by exact_mod_cast high.le) unit.le
        _ = 2 ^ (53 + x.exponent) := (zpow_add₀ (by norm_num) _ _).symm
        _ ≤ 2 ^ ((4 * e + 1 : ℕ) : ℤ) := zpow_le_zpow_right₀ two (by omega)
  · cases word

theorem moderate_ofNat {n : ℕ} (pos : 0 < n) (few : n < 2 ^ 32) : Moderate 35 (Float.ofNat n) := by
  have short : n < 2 ^ 53 ∧ 0 ≤ 22 := ⟨Nat.lt_trans few (by decide), by decide⟩
  have first : Float.exactlyRepresentablePowersOfTen[0] = Json.tenTo 0 := by decide +kernel
  have word : n.toUInt64.toNat = n := UInt64.toNat_ofNat_of_lt' (Nat.lt_trans few (by decide))
  have some : n.toUInt64 ≠ 0 := by
    intro none
    rw [none] at word
    exact pos.ne word
  have whole : Moderate 33 n.toUInt64.toFloat := moderate_toFloat some (word.le.trans few.le)
  have product := whole.mul (moderate_tenTo (e := 0) (by decide)) (by decide)
  show Moderate 35 (Float.ofScientific n false 0)
  rw [Float.ofScientific, dif_pos short, if_neg Bool.false_ne_true, first]
  exact product

end BenchSuite.Decimal
