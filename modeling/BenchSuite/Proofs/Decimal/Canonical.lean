import BenchSuite.Proofs.Decimal.Words
/-!
# All finite doubles

What is read off a word is what `Float` computes with (`unpack_eq`), be the mantissa full, short or zero.  Of two
doubles that are not below zero the one with the larger exponent is the larger one, and of two with one exponent the
one with the larger mantissa; so the order of `Float` is that of the values (`lt_iff_value_lt`, `le_iff_value_le`).
-/
namespace BenchSuite.Decimal

open Float.Model (UnpackedFloat)
open Float.Model.UnpackedFloat (Sign unpackMantissa unpackExponent unpackSign packComponents)

/-- A finite number in the form that `Float` computes with. -/
def Binary.unpacked (x : Binary) : UnpackedFloat :=
  if pos : 0 < x.mantissa then .finite x.sign x.mantissa x.exponent pos else .zero x.sign

/-- What a word stands for, in the form that `Float` computes with. -/
def Reading.unpacked : Reading → UnpackedFloat
  | finite x => x.unpacked
  | infinite negative => .infinity (if negative then .negative else .positive)
  | nan => .notANumber

/-- A mantissa that fills its bits outweighs any mantissa of a lower exponent. -/
theorem full_le_full {q p : ℤ} (lt : q < p) : 2 ^ 53 * (2 : ℚ) ^ q ≤ 2 ^ 52 * 2 ^ p := by
  have doubled : 2 * (2 : ℚ) ^ q ≤ 2 ^ p := by
    rw [mul_comm, ← zpow_add_one₀ (by norm_num : (2 : ℚ) ≠ 0)]
    exact zpow_le_zpow_right₀ (by norm_num) (by omega)
  calc 2 ^ 53 * (2 : ℚ) ^ q = 2 ^ 52 * (2 * (2 : ℚ) ^ q) := by ring
    _ ≤ 2 ^ 52 * (2 : ℚ) ^ p := mul_le_mul_of_nonneg_left doubled (by norm_num)

/-! ## Words -/

section Words

variable (w : BitVec Float.Model.Format.binary64.numBits)

theorem toNat_unpackMantissa : (unpackMantissa w).toNat = w.toNat % 2 ^ 52 := by
  rw [unpackMantissa, BitVec.toNat_cast, BitVec.extractLsb_toNat, Nat.shiftRight_zero]
  rfl

theorem toNat_unpackExponent : (unpackExponent w).toNat = w.toNat / 2 ^ 52 % 2 ^ 11 := by
  rw [unpackExponent, BitVec.toNat_cast, BitVec.extractLsb_toNat, Nat.shiftRight_eq_div_pow]
  rfl

theorem sign_unpackSign : Sign.ofBitVec (unpackSign w) = if w.toNat.testBit 63 then .negative else .positive := by
  have bit : unpackSign w = BitVec.ofBool (w.toNat.testBit 63) := by
    rw [UnpackedFloat.unpackSign_def]
    ext i hi
    obtain rfl : i = 0 := by omega
    simp [BitVec.getLsbD]
  rw [bit]
  cases w.toNat.testBit 63 <;> rfl

/-- **A word is unpacked to what is read off it.** -/
theorem unpack_eq : UnpackedFloat.unpack .binary64 w = (Format.binary64.decode w.toNat).unpacked := by
  have top : unpackExponent w = -1#11 ↔ (unpackExponent w).toNat = 2 ^ 11 - 1 := by
    rw [← BitVec.toNat_inj, BitVec.neg_one_eq_allOnes, BitVec.toNat_allOnes]
  have least : unpackExponent w = 0#11 ↔ (unpackExponent w).toNat = 0 := by rw [← BitVec.toNat_inj]; rfl
  have none : unpackMantissa w = 0#52 ↔ (unpackMantissa w).toNat = 0 := by rw [← BitVec.toNat_inj]; rfl
  unfold Format.decode UnpackedFloat.unpack
  simp only [Format.binary64, Nat.shiftRight_eq_div_pow, Nat.shiftLeft_eq, Nat.one_mul, ← toNat_unpackMantissa,
    ← toNat_unpackExponent, sign_unpackSign, exponentBias_eq]
  by_cases high : (unpackExponent w).toNat = 2 ^ 11 - 1
  · rw [if_pos (top.2 high), if_pos high]
    by_cases zero : (unpackMantissa w).toNat = 0
    · rw [if_pos (none.2 zero), if_pos zero]
      rfl
    · rw [if_neg (mt none.1 zero), if_neg zero]
      rfl
  · rw [if_neg (mt top.1 high), if_neg high]
    by_cases low : (unpackExponent w).toNat = 0
    · rw [if_pos (least.2 low), if_pos low]
      by_cases zero : (unpackMantissa w).toNat = 0
      · rw [dif_pos (none.2 zero), Reading.unpacked, Binary.unpacked, dif_neg (Nat.not_lt.2 zero.le)]
        rfl
      · rw [dif_neg (mt none.1 zero), Reading.unpacked, Binary.unpacked, dif_pos (Nat.pos_of_ne_zero zero)]
        simp only [UnpackedFloat.finite.injEq, Binary.sign, true_and]
        norm_num
        omega
    · have leading : (1#1 ++ unpackMantissa w).toNat = 2 ^ 52 + (unpackMantissa w).toNat := by
        rw [BitVec.toNat_append, ← Nat.shiftLeft_add_eq_or_of_lt (BitVec.isLt _)]
        rfl
      rw [if_neg (mt least.1 low), if_neg low, Reading.unpacked, Binary.unpacked, dif_pos (by dsimp only; omega)]
      simp only [UnpackedFloat.finite.injEq, Binary.sign, true_and, leading]
      norm_num
      omega

theorem canonical_of_decode {x : Binary} (h : Format.binary64.decode w.toNat = .finite x) : x.Canonical := by
  have short : (unpackMantissa w).toNat < 2 ^ 52 := (unpackMantissa w).isLt
  have narrow : (unpackExponent w).toNat < 2 ^ 11 := (unpackExponent w).isLt
  unfold Format.decode at h
  simp only [Format.binary64, Nat.shiftRight_eq_div_pow, Nat.shiftLeft_eq, Nat.one_mul, ← toNat_unpackMantissa,
    ← toNat_unpackExponent] at h
  split at h
  · split at h <;> cases h
  · split at h
    · obtain rfl := Reading.finite.inj h
      exact ⟨by dsimp only; omega, by norm_num, by norm_num, .inl (by norm_num)⟩
    · obtain rfl := Reading.finite.inj h
      exact ⟨by dsimp only; omega, by dsimp only; omega, by dsimp only; omega, .inr (by dsimp only; omega)⟩

end Words

/-! ## Doubles -/

theorem unpack_toModel (x : Float) : x.toModel.unpack = (readFloat x).unpacked := unpack_eq x.toModel.toBits.toBitVec

theorem canonical_of_readFloat {x : Float} {a : Binary} (h : readFloat x = .finite a) : a.Canonical :=
  canonical_of_decode x.toModel.toBits.toBitVec h

namespace Binary

variable {a b : Binary}

theorem unpacked_inj (ha : a.Canonical) (hb : b.Canonical) (h : a.unpacked = b.unpacked) :
    a.negative = b.negative ∧ a.mantissa = b.mantissa ∧ a.exponent = b.exponent := by
  have sign : a.sign = b.sign → a.negative = b.negative := by
    unfold sign
    cases a.negative <;> cases b.negative <;> simp
  unfold unpacked at h
  split at h <;> split at h
  · obtain ⟨same, mantissa, exponent⟩ := UnpackedFloat.finite.inj h
    exact ⟨sign same, mantissa, exponent⟩
  · cases h
  · cases h
  · -- the only zero is that with the least exponent
    have := ha.full
    have := hb.full
    exact ⟨sign (UnpackedFloat.zero.inj h), by omega, by omega⟩

theorem unpack_pack_unpacked (h : a.Canonical) :
    UnpackedFloat.unpack .binary64 (UnpackedFloat.pack .binary64 a.unpacked) = a.unpacked := by
  unfold unpacked
  split
  · exact unpack_pack h _ _
  · exact UnpackedFloat.unpack_packedZero

/-- **What was computed is read**, but that nothing is said of the neighbours. -/
theorem readFloat_pack (h : a.Canonical) : ∃ b : Binary, readFloat (Float.ofModel (.pack a.unpacked)) = .finite b ∧
    b.negative = a.negative ∧ b.mantissa = a.mantissa ∧ b.exponent = a.exponent := by
  have unpack := unpack_toModel (Float.ofModel (.pack a.unpacked))
  have same : (Float.ofModel (.pack a.unpacked)).toModel.unpack = a.unpacked := unpack_pack_unpacked h
  rw [same] at unpack
  cases read : readFloat (Float.ofModel (.pack a.unpacked)) with
  | finite b =>
    rw [read] at unpack
    exact ⟨b, rfl, unpacked_inj (canonical_of_readFloat read) h unpack.symm⟩
  | infinite negative =>
    rw [read] at unpack
    unfold unpacked at unpack
    split at unpack <;> cases unpack
  | nan =>
    rw [read] at unpack
    unfold unpacked at unpack
    split at unpack <;> cases unpack

/-! ## The order -/

/-- A number that is not below zero; a zero may have any sign. -/
def NonNeg (x : Binary) : Prop := x.negative = true → x.mantissa = 0

theorem NonNeg.sign_eq (h : a.NonNeg) (pos : 0 < a.mantissa) : a.sign = .positive := by
  rw [sign, if_neg fun negative => pos.ne' (h negative)]

theorem value_pos (h : 0 < a.mantissa) : 0 < a.value := mul_pos (by exact_mod_cast h) (zpow_pos (by norm_num) _)

theorem value_eq_zero (h : a.mantissa = 0) : a.value = 0 := by rw [value, h, Nat.cast_zero, zero_mul]

theorem value_lt_of_exponent_lt (ha : a.Canonical) (hb : b.Canonical) (lt : a.exponent < b.exponent) :
    a.value < b.value := by
  have full : 2 ^ 52 ≤ b.mantissa := hb.full.resolve_left (by have := ha.lowest; omega)
  have above : (a.mantissa : ℚ) < 2 ^ 53 := by exact_mod_cast ha.high
  have below : (2 : ℚ) ^ 52 ≤ b.mantissa := by exact_mod_cast full
  calc a.value < 2 ^ 53 * (2 : ℚ) ^ a.exponent := mul_lt_mul_of_pos_right above (zpow_pos (by norm_num) _)
    _ ≤ 2 ^ 52 * (2 : ℚ) ^ b.exponent := full_le_full lt
    _ ≤ b.value := mul_le_mul_of_nonneg_right below (zpow_pos (by norm_num) _).le

/-- **The larger exponent decides**, and then the larger mantissa. -/
theorem value_lt_iff (ha : a.Canonical) (hb : b.Canonical) :
    a.value < b.value ↔ a.exponent < b.exponent ∨ a.exponent = b.exponent ∧ a.mantissa < b.mantissa := by
  rcases lt_trichotomy a.exponent b.exponent with lt | same | gt
  · exact iff_of_true (value_lt_of_exponent_lt ha hb lt) (.inl lt)
  · have unit : (0 : ℚ) < 2 ^ b.exponent := zpow_pos (by norm_num) _
    rw [value, value, same, mul_lt_mul_iff_left₀ unit, Nat.cast_lt]
    simp
  · refine iff_of_false (value_lt_of_exponent_lt hb ha gt).not_gt ?_
    omega

/-- Below a double that is not the first one with its exponent, the one before it is the largest. -/
theorem value_le_of_lt_succ {m : ℕ} {q : ℤ} {s t : Bool} (ha : a.Canonical) (hb : (⟨s, m + 1, q, t⟩ : Binary).Canonical)
    (full : 2 ^ 52 ≤ m) (lt : a.value < (⟨s, m + 1, q, t⟩ : Binary).value) : a.value ≤ (⟨s, m, q, t⟩ : Binary).value := by
  have before : (⟨s, m, q, t⟩ : Binary).Canonical := ⟨Nat.lt_of_succ_lt hb.high, hb.lowest, hb.highest, .inr full⟩
  rw [value_lt_iff ha hb] at lt
  rw [← not_lt, value_lt_iff before ha]
  dsimp only at lt ⊢
  omega

/-- `Float` compares what it computes with by the values. -/
theorem compare_unpacked (ha : a.Canonical) (hb : b.Canonical) (na : a.NonNeg) (nb : b.NonNeg) :
    a.unpacked.compare b.unpacked = some (compare a.value b.value) := by
  unfold unpacked
  split <;> split
  · rename_i posa posb
    rw [na.sign_eq posa, nb.sign_eq posb]
    show some ((compare a.exponent b.exponent).then (compare a.mantissa b.mantissa)) = _
    congr 1
    rcases lt_trichotomy a.value b.value with lt | same | gt
    · rw [compare_lt_iff_lt.2 lt]
      rcases (value_lt_iff ha hb).1 lt with exponent | ⟨exponent, mantissa⟩
      · rw [Int.compare_eq_lt.2 exponent]
        rfl
      · rw [Int.compare_eq_eq.2 exponent, Nat.compare_eq_lt.2 mantissa]
        rfl
    · have not_lt := mt (value_lt_iff ha hb).2 same.not_lt
      have not_gt := mt (value_lt_iff hb ha).2 same.not_gt
      rw [compare_eq_iff_eq.2 same, Int.compare_eq_eq.2 (by omega), Nat.compare_eq_eq.2 (by omega)]
      rfl
    · rw [compare_gt_iff_gt.2 gt]
      rcases (value_lt_iff hb ha).1 gt with exponent | ⟨exponent, mantissa⟩
      · rw [Int.compare_eq_gt.2 exponent]
        rfl
      · rw [Int.compare_eq_eq.2 exponent.symm, Nat.compare_eq_gt.2 mantissa]
        rfl
  · rename_i posa zerob
    rw [na.sign_eq posa, value_eq_zero (Nat.eq_zero_of_not_pos zerob), compare_gt_iff_gt.2 (value_pos posa)]
    rfl
  · rename_i zeroa posb
    rw [nb.sign_eq posb, value_eq_zero (Nat.eq_zero_of_not_pos zeroa), compare_lt_iff_lt.2 (value_pos posb)]
    rfl
  · rename_i zeroa zerob
    rw [value_eq_zero (Nat.eq_zero_of_not_pos zeroa), value_eq_zero (Nat.eq_zero_of_not_pos zerob),
      compare_eq_iff_eq.2 rfl]
    rfl

end Binary

section Order

variable {x y : Float} {a b : Binary} (hx : readFloat x = .finite a) (hy : readFloat y = .finite b)
include hx hy

theorem compare_toModel (na : a.NonNeg) (nb : b.NonNeg) :
    x.toModel.unpack.compare y.toModel.unpack = some (compare a.value b.value) := by
  rw [unpack_toModel, unpack_toModel, hx, hy]
  exact Binary.compare_unpacked (canonical_of_readFloat hx) (canonical_of_readFloat hy) na nb

theorem lt_iff_value_lt (na : a.NonNeg) (nb : b.NonNeg) : x < y ↔ a.value < b.value := by
  have less : x < y ↔ (x.toModel.unpack.compare y.toModel.unpack == some .lt) = true := by
    show decide (x.toModel < y.toModel) = true ↔ _
    rw [decide_eq_true_iff]
    rfl
  rw [less, compare_toModel hx hy na nb, beq_iff_eq, Option.some.injEq, compare_lt_iff_lt]

theorem le_iff_value_le (na : a.NonNeg) (nb : b.NonNeg) : x ≤ y ↔ a.value ≤ b.value := by
  have less : x ≤ y ↔ (x.toModel.unpack.compare y.toModel.unpack).any (·.isLE) = true := by
    show decide (x.toModel ≤ y.toModel) = true ↔ _
    rw [decide_eq_true_iff]
    rfl
  rw [less, compare_toModel hx hy na nb, Option.any_some, Ordering.isLE_iff_ne_gt]
  exact compare_le_iff_le

/-- Finite doubles are ordered in a line. -/
theorem not_lt_iff_le (na : a.NonNeg) (nb : b.NonNeg) : ¬ x < y ↔ y ≤ x := by
  rw [lt_iff_value_lt hx hy na nb, le_iff_value_le hy hx nb na, not_lt]

end Order

/-- A double that is not less than zero. -/
theorem nonNeg_of_le {x : Float} {a : Binary} (hx : readFloat x = .finite a) (h : 0.0 ≤ x) : a.NonNeg := by
  have zero : readFloat (0.0 : Float) = .finite ⟨false, 0, -1074, false⟩ := by decide +kernel
  have less : ((0.0 : Float).toModel.unpack.compare x.toModel.unpack).any (·.isLE) = true := by
    have h : decide ((0.0 : Float).toModel ≤ x.toModel) = true := h
    exact of_decide_eq_true h
  rw [unpack_toModel, unpack_toModel, zero, hx] at less
  intro negative
  by_contra some
  rw [Reading.unpacked, Reading.unpacked, Binary.unpacked, Binary.unpacked, dif_neg (by decide),
    dif_pos (Nat.pos_of_ne_zero some), Binary.sign, Binary.sign, negative] at less
  cases less

end BenchSuite.Decimal
