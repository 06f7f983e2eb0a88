import BenchSuite.Json.Number
import BenchSuite.Proofs.Decimal.Words
/-!
# Floating-point division and multiplication

A mantissa with its two residual bits describes the exact number it was cut from (`Describes`), and goes on to describe
it when it is shifted; so rounding takes the nearest double (`roundWithAccuracy_eq`), and a quotient of two doubles is
the double nearest to their exact quotient (`toFloat_div_toFloat`), as is a product (`toFloat_mul_toFloat`).  Whole
numbers below `2 ^ 53` and the powers of ten up to `10 ^ 22` are doubles, so a decimal made of these is rounded just once
(`div_tenTo`).
-/
namespace BenchSuite.Decimal

open Float.Model Float.Model.UnpackedFloat

/-- The exact number that a mantissa with its two residual bits stands for. -/
def Describes (em : ExtendedMantissa) (y : ℚ) : Prop :=
  match em.roundBit, em.stickyBit with
  | false, false => y = em.mantissa
  | false, true => em.mantissa < y ∧ y < em.mantissa + 1 / 2
  | true, false => y = em.mantissa + 1 / 2
  | true, true => em.mantissa + 1 / 2 < y ∧ y < em.mantissa + 1

namespace Describes

variable {em : ExtendedMantissa} {y : ℚ}

theorem bounds (h : Describes em y) : (em.mantissa : ℚ) ≤ y ∧ y < em.mantissa + 1 := by
  obtain ⟨m, round, sticky⟩ := em
  cases round <;> cases sticky <;> simp only [Describes] at h ⊢ <;> constructor <;> linarith

theorem shiftRightOne (h : Describes em y) : Describes em.shiftRightOne (y / 2) := by
  obtain ⟨m, round, sticky⟩ := em
  have parts : ((m % 2 : ℕ) : ℚ) + 2 * ((m / 2 : ℕ) : ℚ) = m := by exact_mod_cast Nat.mod_add_div m 2
  rcases Nat.mod_two_eq_zero_or_one m with last | last <;> rw [last] at parts <;>
    cases round <;> cases sticky <;> simp [Describes, ExtendedMantissa.shiftRightOne, last] at h parts ⊢ <;>
    first | linarith | exact ⟨by linarith, by linarith⟩

theorem shiftRight (h : Describes em y) : ∀ k : ℕ, Describes (em >>> k) (y / 2 ^ k)
  | 0 => by
    rw [pow_zero, div_one]
    exact h
  | k + 1 => by
    rw [pow_succ, ← div_div]
    exact (shiftRight h k).shiftRightOne

/-- **The rounded mantissa is nearest**, and of two that are equally near it is the even one. -/
theorem rounded (h : Describes em y) : (em.roundedMantissa : ℚ) - 1 / 2 ≤ y ∧ y ≤ em.roundedMantissa + 1 / 2 ∧
    (em.roundedMantissa % 2 = 1 → (em.roundedMantissa : ℚ) - 1 / 2 < y ∧ y < em.roundedMantissa + 1 / 2) := by
  obtain ⟨m, round, sticky⟩ := em
  cases round <;> cases sticky <;>
    simp only [Describes, ExtendedMantissa.roundedMantissa, ExtendedMantissa.accuracy,
      Accuracy.roundToNearestEven] at h ⊢
  · exact ⟨by linarith, by linarith, fun _ => ⟨by linarith, by linarith⟩⟩
  · exact ⟨by linarith, by linarith, fun _ => ⟨by linarith, by linarith⟩⟩
  · rcases Nat.mod_two_eq_zero_or_one m with even | odd
    · rw [even]
      exact ⟨by push_cast; linarith, by push_cast; linarith, fun odd => by omega⟩
    · rw [odd]
      exact ⟨by push_cast; linarith, by push_cast; linarith, fun odd => by omega⟩
  · exact ⟨by push_cast; linarith, by push_cast; linarith, fun _ => ⟨by push_cast; linarith, by push_cast; linarith⟩⟩

/-- A mantissa that fills its bits still does when it is rounded, or has become one bit longer. -/
theorem rounded_range (h : Describes em y) (least : 2 ^ 52 ≤ y) (most : y < 2 ^ 53) :
    2 ^ 52 ≤ em.roundedMantissa ∧ em.roundedMantissa ≤ 2 ^ 53 := by
  obtain ⟨down, up, -⟩ := h.rounded
  constructor
  · have : ((2 ^ 52 : ℕ) : ℚ) < ((em.roundedMantissa + 1 : ℕ) : ℚ) := by push_cast; linarith
    exact Nat.le_of_lt_succ (by exact_mod_cast this)
  · have : ((em.roundedMantissa : ℕ) : ℚ) < ((2 ^ 53 + 1 : ℕ) : ℚ) := by push_cast; linarith
    exact Nat.le_of_lt_succ (by exact_mod_cast this)

/-- Shifted to its first bits, a number fills just these. -/
theorem full_of_log2 (h : Describes em y) {k : ℕ} (bits : em.mantissa.log2 = 52 + k) :
    2 ^ 52 ≤ y / 2 ^ k ∧ y / 2 ^ k < 2 ^ 53 := by
  obtain ⟨below, above⟩ := h.bounds
  have some : em.mantissa ≠ 0 := by
    intro none
    rw [none, Nat.log2_zero] at bits
    omega
  obtain ⟨least, most⟩ := (Nat.log2_eq_iff some).1 bits
  constructor
  · rw [le_div_iff₀ (by positivity), ← pow_add]
    have : ((2 ^ (52 + k) : ℕ) : ℚ) ≤ em.mantissa := by exact_mod_cast least
    push_cast at this
    linarith
  · rw [div_lt_iff₀ (by positivity), ← pow_add, show 53 + k = 52 + k + 1 by omega]
    have : ((em.mantissa + 1 : ℕ) : ℚ) ≤ ((2 ^ (52 + k + 1) : ℕ) : ℚ) := by exact_mod_cast most
    push_cast at this
    linarith

end Describes

/-! ## Rounding -/

theorem mantissa_ofMantissaAndAccuracy (m : ℕ) (acc : Accuracy) :
    (ExtendedMantissa.ofMantissaAndAccuracy m acc).mantissa = m := by
  cases acc with
  | exact => rfl
  | inexact o => cases o <;> rfl

theorem targetExponent_eq (m : ℕ) (e : ℤ) :
    Float.Model.Format.binary64.targetExponent (totalExponent m e) = max (m.log2 + e - 52) (-1074) := by
  simp only [Float.Model.Format.targetExponent, totalExponent, Float.Model.Format.mantissaBits,
    Float.Model.Format.minExponent]
  omega

theorem shiftToTargetExponent_eq {m : ℕ} {e : ℤ} {k : ℕ} (amount : (max (m.log2 + e - 52) (-1074) - e).toNat = k)
    (acc : Accuracy) : shiftToTargetExponent Float.Model.Format.binary64 m e acc =
      (ExtendedMantissa.ofMantissaAndAccuracy m acc >>> k, e + k) := by
  rw [shiftToTargetExponent, targetExponent_eq, shiftToExponent, amount]

/-- What is made of the rounded mantissa: one that has become too long is shifted once more. -/
theorem roundWithAccuracy_of_rounded (s : Sign) {m : ℕ} {e : ℤ} {acc : Accuracy} {k : ℕ}
    (amount : (max (m.log2 + e - 52) (-1074) - e).toNat = k) {r : ℕ}
    (rounded : (ExtendedMantissa.ofMantissaAndAccuracy m acc >>> k).roundedMantissa = r)
    (lowest : -1074 ≤ e + k) (most : r ≤ 2 ^ 53) :
    roundWithAccuracy Float.Model.Format.binary64 s m e acc =
      if r = 2 ^ 53 then .finite s (2 ^ 52) (e + k + 1) (Nat.two_pow_pos 52)
      else if pos : 0 < r then .finite s r (e + k) pos else .zero s := by
  simp only [roundWithAccuracy, shiftToTargetExponent_eq amount, rounded]
  by_cases full : r = 2 ^ 53
  · subst full
    have bits : (2 ^ 53 : ℕ).log2 = 53 := Nat.log2_two_pow
    have once : (max (((2 ^ 53 : ℕ).log2 : ℤ) + (e + k) - 52) (-1074) - (e + k)).toNat = 1 := by omega
    have halved : (ExtendedMantissa.ofMantissaAndAccuracy (2 ^ 53) .exact >>> 1).mantissa = 2 ^ 52 := by
      show 2 ^ 53 / 2 = 2 ^ 52
      norm_num
    simp only [shiftToTargetExponent_eq once, halved, if_true, Nat.cast_one,
      dif_neg (Nat.ne_of_gt (Nat.two_pow_pos 52))]
  · have bits : r.log2 ≤ 52 := by
      rcases Nat.eq_zero_or_pos r with rfl | pos
      · exact Nat.zero_le _
      · exact Nat.le_of_lt_succ ((Nat.log2_lt pos.ne').2 (by omega))
    have still : (max ((r.log2 : ℤ) + (e + k) - 52) (-1074) - (e + k)).toNat = 0 := by omega
    have whole : ExtendedMantissa.ofMantissaAndAccuracy r .exact >>> 0 = ⟨r, false, false⟩ := rfl
    simp only [shiftToTargetExponent_eq still, whole, if_neg full, Nat.cast_zero, add_zero]
    rcases Nat.eq_zero_or_pos r with rfl | pos
    · rfl
    · rw [dif_neg pos.ne', dif_pos pos]

/-- **Rounding gives a nearest double.**  The exact number is described by a mantissa that fills all bits at least,
and what was cut off behind it. -/
theorem roundWithAccuracy_eq (s : Sign) {m : ℕ} {e : ℤ} {acc : Accuracy} {v : ℚ}
    (exact : Describes (.ofMantissaAndAccuracy m acc) (v / 2 ^ e)) (full : 52 ≤ m.log2)
    (low : -1021 ≤ m.log2 + e) (high : m.log2 + e ≤ 1022) :
    ∃ (x : Binary) (pos : 0 < x.mantissa), x.Normal ∧ x.NearestTo v ∧ x.negative = false ∧
      roundWithAccuracy Float.Model.Format.binary64 s m e acc = .finite s x.mantissa x.exponent pos := by
  obtain ⟨k, bits⟩ := Nat.exists_eq_add_of_le full
  have shifted := exact.shiftRight k
  obtain ⟨lowest, highest⟩ := exact.full_of_log2 (by rw [mantissa_ofMantissaAndAccuracy, bits])
  generalize hy : v / 2 ^ e / 2 ^ k = y at shifted lowest highest
  have scaled : y * 2 ^ (e + k) = v := by
    rw [← hy, zpow_add₀ (by norm_num : (2 : ℚ) ≠ 0), zpow_natCast, div_div, div_mul_cancel₀]
    positivity
  obtain ⟨least', most'⟩ := shifted.rounded_range lowest highest
  obtain ⟨down, up, ends⟩ := shifted.rounded
  generalize hr : (ExtendedMantissa.ofMantissaAndAccuracy m acc >>> k).roundedMantissa = r at *
  have result := roundWithAccuracy_of_rounded s (e := e) (by omega) hr (by omega) most'
  rw [dif_pos (Nat.lt_of_lt_of_le (Nat.two_pow_pos 52) least')] at result
  by_cases carry : r = 2 ^ 53
  · rw [if_pos carry] at result
    subst carry
    refine ⟨.positive (2 ^ 52) (e + k + 1), Nat.two_pow_pos 52,
      Binary.normal_positive le_rfl (by norm_num) (by omega) (by omega), ?_, rfl, result⟩
    have halved : v = y / 2 * 2 ^ (e + k + 1) := by
      rw [← scaled, zpow_add_one₀ (by norm_num : (2 : ℚ) ≠ 0)]
      ring
    rw [halved]
    push_cast at down
    refine Binary.nearestTo_positive (fun _ => ?_) (fun other => absurd rfl other) ?_ (fun odd => ?_)
    · push_cast
      linarith
    · push_cast
      linarith
    · norm_num at odd
  · rw [if_neg carry] at result
    refine ⟨.positive r (e + k), Nat.lt_of_lt_of_le (Nat.two_pow_pos 52) least',
      Binary.normal_positive least' (by omega) (by omega) (by omega), ?_, rfl, result⟩
    rw [← scaled]
    refine Binary.nearestTo_positive ?_ (fun _ => down) up ends
    rintro rfl
    push_cast
    linarith

/-! ## Division -/

theorem describes_quotient (n : ℕ) {d : ℕ} (pos : 0 < d) :
    Describes (.ofMantissaAndAccuracy (n / d) (accuracyOfFraction (n % d) d)) (n / d) := by
  have pos' : (0 : ℚ) < d := by exact_mod_cast pos
  have parts : (n : ℚ) = d * (n / d : ℕ) + (n % d : ℕ) := by exact_mod_cast (Nat.div_add_mod n d).symm
  have quotient : (n : ℚ) / d = (n / d : ℕ) + (n % d : ℕ) / d := by
    rw [parts, add_div, mul_div_cancel_left₀ _ pos'.ne']
  have below : ((n % d : ℕ) : ℚ) / d < 1 := (div_lt_one pos').2 (by exact_mod_cast Nat.mod_lt n pos)
  rw [quotient, accuracyOfFraction]
  generalize n % d = r at below
  by_cases none : r = 0
  · simp [none, Describes, ExtendedMantissa.ofMantissaAndAccuracy]
  · have above : 0 < (r : ℚ) / d := div_pos (by exact_mod_cast Nat.pos_of_ne_zero none) pos'
    rw [if_neg none]
    rcases Nat.lt_trichotomy (2 * r) d with less | half | more
    · have : (r : ℚ) / d < 1 / 2 :=
        (div_lt_div_iff₀ pos' (by norm_num)).2 (by exact_mod_cast (by omega : r * 2 < 1 * d))
      rw [Nat.compare_eq_lt.2 less]
      exact ⟨lt_add_of_pos_right _ above, (add_lt_add_iff_left _).2 this⟩
    · have : (r : ℚ) / d = 1 / 2 :=
        (div_eq_div_iff pos'.ne' (by norm_num)).2 (by exact_mod_cast (by omega : r * 2 = 1 * d))
      rw [Nat.compare_eq_eq.2 half, this]
      rfl
    · have : 1 / 2 < (r : ℚ) / d :=
        (div_lt_div_iff₀ (by norm_num) pos').2 (by exact_mod_cast (by omega : 1 * d < r * 2))
      rw [Nat.compare_eq_gt.2 more]
      exact ⟨(add_lt_add_iff_left _).2 this, (add_lt_add_iff_left _).2 below⟩

theorem divCore_eq {x y : Binary} (hx : x.Normal) (hy : y.Normal) (low : -1020 ≤ x.exponent - y.exponent) :
    divCore .binary64 x.mantissa x.exponent y.mantissa y.exponent =
      (x.mantissa * 2 ^ 53 / y.mantissa, x.exponent - y.exponent - 53,
        accuracyOfFraction (x.mantissa * 2 ^ 53 % y.mantissa) y.mantissa) := by
  have target : Float.Model.Format.binary64.targetExponent
      (totalExponent x.mantissa x.exponent - totalExponent y.mantissa y.exponent) = x.exponent - y.exponent - 53 := by
    simp only [Float.Model.Format.targetExponent, totalExponent, Float.Model.Format.mantissaBits,
      Float.Model.Format.minExponent, hx.log2_mantissa, hy.log2_mantissa]
    omega
  have lower : min (x.exponent - y.exponent) (x.exponent - y.exponent - 53) = x.exponent - y.exponent - 53 := by omega
  have amount : (x.exponent - y.exponent - (x.exponent - y.exponent - 53)).toNat = 53 := by omega
  simp only [divCore, target, lower, amount, Nat.shiftLeft_eq]

/-- **A quotient of two doubles is the double nearest to it.** -/
theorem toFloat_div_toFloat {x y : Binary} (hx : x.Normal) (hy : y.Normal) (positive : x.negative = false)
    (positive' : y.negative = false) (low : -1020 ≤ x.exponent - y.exponent) (high : x.exponent - y.exponent ≤ 1022) :
    ∃ z : Binary, z.Normal ∧ z.NearestTo (x.value / y.value) ∧ z.negative = false ∧
      x.toFloat / y.toFloat = z.toFloat := by
  have least : 2 ^ 52 ≤ x.mantissa * 2 ^ 53 / y.mantissa := by
    rw [Nat.le_div_iff_mul_le hy.pos]
    nlinarith [hx.low, hy.high]
  have most : x.mantissa * 2 ^ 53 / y.mantissa < 2 ^ 54 := by
    rw [Nat.div_lt_iff_lt_mul hy.pos]
    nlinarith [hx.high, hy.low]
  have some : x.mantissa * 2 ^ 53 / y.mantissa ≠ 0 := by omega
  have full := (Nat.le_log2 some).2 least
  have short := (Nat.log2_lt some).2 most
  have scaled : x.value / y.value / 2 ^ (x.exponent - y.exponent - 53) = (x.mantissa * 2 ^ 53 : ℕ) / y.mantissa := by
    have two : (2 : ℚ) ≠ 0 := by norm_num
    have below : (y.mantissa : ℚ) ≠ 0 := by exact_mod_cast hy.pos.ne'
    rw [Binary.value, Binary.value, zpow_sub₀ two, zpow_sub₀ two]
    push_cast
    field_simp
  have exact := describes_quotient (x.mantissa * 2 ^ 53) hy.pos
  rw [← scaled] at exact
  obtain ⟨z, pos, normal, near, up, result⟩ := roundWithAccuracy_eq .positive exact full (by omega) (by omega)
  refine ⟨z, normal, near, up, ?_⟩
  have sign : x.sign = .positive ∧ y.sign = .positive := by simp [Binary.sign, positive, positive']
  have divide : UnpackedFloat.div .binary64 (.finite .positive x.mantissa x.exponent hx.pos)
      (.finite .positive y.mantissa y.exponent hy.pos) = .finite .positive z.mantissa z.exponent pos := by
    rw [UnpackedFloat.div, divCore_eq hx hy low]
    exact result
  show Float.ofModel (.pack (UnpackedFloat.div .binary64 x.toFloat.toModel.unpack y.toFloat.toModel.unpack)) = _
  rw [unpack_toFloat hx, unpack_toFloat hy, sign.1, sign.2, divide, Binary.toFloat, dif_pos pos, Binary.sign, up]
  rfl

/-! ## Multiplication -/

/-- **A product of two doubles is the double nearest to it.** -/
theorem toFloat_mul_toFloat {x y : Binary} (hx : x.Normal) (hy : y.Normal) (positive : x.negative = false)
    (positive' : y.negative = false) (low : -1125 ≤ x.exponent + y.exponent) (high : x.exponent + y.exponent ≤ 917) :
    ∃ z : Binary, z.Normal ∧ z.NearestTo (x.value * y.value) ∧ z.negative = false ∧
      x.toFloat * y.toFloat = z.toFloat := by
  have least : 2 ^ 104 ≤ x.mantissa * y.mantissa := by
    rw [show (104 : ℕ) = 52 + 52 by rfl, pow_add]
    exact Nat.mul_le_mul hx.low hy.low
  have most : x.mantissa * y.mantissa < 2 ^ 106 := by
    rw [show (106 : ℕ) = 53 + 53 by rfl, pow_add]
    exact Nat.mul_lt_mul'' hx.high hy.high
  have some : x.mantissa * y.mantissa ≠ 0 := by omega
  have full := (Nat.le_log2 some).2 least
  have short := (Nat.log2_lt some).2 most
  have exact : Describes (.ofMantissaAndAccuracy (x.mantissa * y.mantissa) .exact)
      (x.value * y.value / 2 ^ (x.exponent + y.exponent)) := by
    show x.value * y.value / 2 ^ (x.exponent + y.exponent) = ((x.mantissa * y.mantissa : ℕ) : ℚ)
    rw [div_eq_iff (zpow_ne_zero _ (by norm_num)), Binary.value, Binary.value, zpow_add₀ (by norm_num : (2 : ℚ) ≠ 0)]
    push_cast
    ring
  obtain ⟨z, pos, normal, near, up, result⟩ := roundWithAccuracy_eq .positive exact (by omega) (by omega) (by omega)
  refine ⟨z, normal, near, up, ?_⟩
  have sign : x.sign = .positive ∧ y.sign = .positive := by simp [Binary.sign, positive, positive']
  have multiply : UnpackedFloat.mul .binary64 (.finite .positive x.mantissa x.exponent hx.pos)
      (.finite .positive y.mantissa y.exponent hy.pos) = .finite .positive z.mantissa z.exponent pos := by
    rw [UnpackedFloat.mul]
    exact result
  show Float.ofModel (.pack (UnpackedFloat.mul .binary64 x.toFloat.toModel.unpack y.toFloat.toModel.unpack)) = _
  rw [unpack_toFloat hx, unpack_toFloat hy, sign.1, sign.2, multiply, Binary.toFloat, dif_pos pos, Binary.sign, up]
  rfl

/-! ## Whole numbers -/

theorem log2_mul_two_pow {n : ℕ} (some : n ≠ 0) (k : ℕ) : (n * 2 ^ k).log2 = n.log2 + k := by
  obtain ⟨low, high⟩ := (Nat.log2_eq_iff some).1 rfl
  refine (Nat.log2_eq_iff (Nat.mul_ne_zero some (Nat.two_pow_pos k).ne')).2 ⟨?_, ?_⟩
  · rw [pow_add]
    exact Nat.mul_le_mul_right _ low
  · rw [show n.log2 + k + 1 = n.log2 + 1 + k by omega, pow_add]
    exact Nat.mul_lt_mul_of_pos_right high (Nat.two_pow_pos k)

/-- **A word is turned into the double nearest to it.** -/
theorem toFloat_nearestTo {n : ℕ} (pos : 0 < n) (fits : n < UInt64.size) :
    ∃ z : Binary, z.Normal ∧ z.NearestTo n ∧ z.negative = false ∧ (UInt64.ofNat n).toFloat = z.toFloat := by
  obtain ⟨least, most⟩ := (Nat.log2_eq_iff pos.ne').1 rfl
  have bits : n.log2 < 64 := (Nat.log2_lt pos.ne').2 fits
  have target : Float.Model.Format.binary64.targetExponent (totalExponent n 0) = n.log2 - 52 := by
    rw [targetExponent_eq]
    omega
  have amount : (0 - ((n.log2 : ℤ) - 52)).toNat = 52 - n.log2 := by omega
  have longer := log2_mul_two_pow pos.ne' (52 - n.log2)
  have exact : Describes (.ofMantissaAndAccuracy (n * 2 ^ (52 - n.log2)) .exact)
      ((n : ℚ) / 2 ^ (0 - ((52 - n.log2 : ℕ) : ℤ))) := by
    show (n : ℚ) / 2 ^ (0 - ((52 - n.log2 : ℕ) : ℤ)) = ((n * 2 ^ (52 - n.log2) : ℕ) : ℚ)
    rw [zero_sub, zpow_neg, zpow_natCast, div_inv_eq_mul]
    push_cast
    rfl
  obtain ⟨z, pos', normal, near, up, result⟩ := roundWithAccuracy_eq .positive exact (by omega) (by omega) (by omega)
  have whole : UnpackedFloat.ofNat .binary64 n = .finite .positive z.mantissa z.exponent pos' := by
    have more : compare (n : ℤ) 0 = .gt := Int.compare_eq_gt.2 (by omega)
    simp only [UnpackedFloat.ofNat, UnpackedFloat.ofInt, UnpackedFloat.normalize, more, Int.toNat_natCast,
      UnpackedFloat.round, target, decreaseExponent, amount, Nat.shiftLeft_eq]
    exact result
  refine ⟨z, normal, near, up, ?_⟩
  show Float.ofModel (.pack (UnpackedFloat.ofNat .binary64 (UInt64.ofNat n).toNat)) = _
  rw [UInt64.toNat_ofNat_of_lt' fits, whole, Binary.toFloat, dif_pos pos', Binary.sign, up]
  rfl

theorem toFloat_ofNat {n : ℕ} (pos : 0 < n) (fits : n < UInt64.size) {x : Binary} (h : x.Normal)
    (positive : x.negative = false) (same : x.value = n) : (UInt64.ofNat n).toFloat = x.toFloat := by
  obtain ⟨z, normal, near, up, word⟩ := toFloat_nearestTo pos fits
  rw [word, h.ext_of_nearestTo normal x.nearestTo_value (same ▸ near) (positive.trans up.symm)]

/-- The leading bits of a whole number, as many as a mantissa has. -/
def Binary.ofNat (n : ℕ) : Binary := .positive (n * 2 ^ 52 / 2 ^ n.log2) (n.log2 - 52)

theorem normal_ofNat {n : ℕ} (pos : 0 < n) (bits : n.log2 ≤ 1023) : (Binary.ofNat n).Normal := by
  obtain ⟨least, most⟩ := (Nat.log2_eq_iff pos.ne').1 rfl
  refine Binary.normal_positive ?_ ?_ (by omega) (by omega)
  · rw [Nat.le_div_iff_mul_le (Nat.two_pow_pos _), mul_comm]
    exact Nat.mul_le_mul_right _ least
  · rw [Nat.div_lt_iff_lt_mul (Nat.two_pow_pos _), show (53 : ℕ) = 1 + 52 by rfl, pow_add, mul_right_comm, ← pow_add,
      add_comm 1]
    exact Nat.mul_lt_mul_of_pos_right most (Nat.two_pow_pos _)

theorem value_ofNat {n : ℕ} (exact : 2 ^ n.log2 ∣ n * 2 ^ 52) : (Binary.ofNat n).value = n := by
  have whole : ((n * 2 ^ 52 / 2 ^ n.log2 : ℕ) : ℚ) * 2 ^ n.log2 = n * 2 ^ 52 := by
    exact_mod_cast Nat.div_mul_cancel exact
  show ((n * 2 ^ 52 / 2 ^ n.log2 : ℕ) : ℚ) * 2 ^ ((n.log2 : ℤ) - 52) = n
  rw [zpow_sub₀ (by norm_num : (2 : ℚ) ≠ 0), zpow_natCast, mul_div_assoc', whole]
  exact mul_div_cancel_right₀ _ (by norm_num)

/-- Numbers below `2 ^ 53` are doubles, and even ones are up to `2 ^ 54`. -/
theorem exact_of_lt {n : ℕ} (pos : 0 < n) (short : n < 2 ^ 53 ∨ n < 2 ^ 54 ∧ n % 2 = 0) : 2 ^ n.log2 ∣ n * 2 ^ 52 := by
  by_cases fits : n < 2 ^ 53
  · have bits : n.log2 < 53 := (Nat.log2_lt pos.ne').2 fits
    exact Nat.dvd_mul_left_of_dvd (Nat.pow_dvd_pow 2 (by omega)) n
  · have bits : n.log2 = 53 := (Nat.log2_eq_iff pos.ne').2 ⟨by omega, by omega⟩
    rw [bits, show (2 : ℕ) ^ 53 = 2 * 2 ^ 52 by norm_num]
    exact Nat.mul_dvd_mul_right (Nat.dvd_of_mod_eq_zero (by omega)) _

/-- **The first powers of ten are doubles.** -/
theorem tenTo_eq : ∀ j ≤ 22, Json.tenTo j = (Binary.ofNat (10 ^ j)).toFloat ∧ 2 ^ (10 ^ j).log2 ∣ 10 ^ j * 2 ^ 52 ∧
    (10 ^ j).log2 ≤ 74 := by
  decide +kernel

/-- **A decimal that is taken in one division is turned into the double nearest to it.** -/
theorem div_tenTo {n j : ℕ} (pos : 0 < n) (short : n < 2 ^ 53 ∨ n < 2 ^ 54 ∧ n % 2 = 0) (few : j ≤ 22) :
    ∃ x : Binary, x.Normal ∧ x.NearestTo (n / 10 ^ j) ∧ x.negative = false ∧
      (UInt64.ofNat n).toFloat / Json.tenTo j = x.toFloat := by
  obtain ⟨ten, exact, bits⟩ := tenTo_eq j few
  have bits' : n.log2 < 54 := (Nat.log2_lt pos.ne').2 (by omega)
  have normal := normal_ofNat pos (by omega)
  have normal' := normal_ofNat (Nat.pow_pos (show 0 < 10 by decide)) (show (10 ^ j).log2 ≤ 1023 by omega)
  have same := value_ofNat (exact_of_lt pos short)
  have same' := value_ofNat exact
  have fits : n < UInt64.size := Nat.lt_of_lt_of_le (show n < 2 ^ 54 by omega) (by decide)
  have low : -1020 ≤ (Binary.ofNat n).exponent - (Binary.ofNat (10 ^ j)).exponent := by
    show -1020 ≤ ((n.log2 : ℤ) - 52) - (((10 ^ j).log2 : ℤ) - 52)
    omega
  have high : (Binary.ofNat n).exponent - (Binary.ofNat (10 ^ j)).exponent ≤ 1022 := by
    show ((n.log2 : ℤ) - 52) - (((10 ^ j).log2 : ℤ) - 52) ≤ 1022
    omega
  obtain ⟨z, hz, near, up, quotient⟩ := toFloat_div_toFloat normal normal' rfl rfl low high
  rw [same, same', Nat.cast_pow] at near
  exact ⟨z, hz, near, up, by rw [toFloat_ofNat pos fits normal rfl same, ten, quotient]⟩

/-- So it is turned into a double to which it is nearest. -/
theorem div_tenTo_eq {n j : ℕ} (pos : 0 < n) (short : n < 2 ^ 53 ∨ n < 2 ^ 54 ∧ n % 2 = 0) (few : j ≤ 22) {x : Binary}
    (h : x.Normal) (positive : x.negative = false) (near : x.NearestTo (n / 10 ^ j)) :
    (UInt64.ofNat n).toFloat / Json.tenTo j = x.toFloat := by
  obtain ⟨z, hz, near', up, quotient⟩ := div_tenTo pos short few
  rw [quotient, h.ext_of_nearestTo hz near near' (positive.trans up.symm)]

end BenchSuite.Decimal
