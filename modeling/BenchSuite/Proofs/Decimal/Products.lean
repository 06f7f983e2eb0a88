import BenchSuite.Decimal.Fixed
import BenchSuite.Proofs.Decimal.Canonical
import BenchSuite.Proofs.Decimal.Rounding
import BenchSuite.Proofs.Decimal.Search
/-!
# Rounding keeps order

Of two numbers the larger one is not rounded to less, be it to whole numbers (`RoundsTo.mono`) or to doubles
(`Rounded.mono`).  A product of two doubles is their exact product, rounded to a double (`readFloat_mul`), and what is
shown of a double to some places is its exact value, rounded to a whole number of the last place
(`roundsTo_scaledRound`); so both keep order.
-/
namespace BenchSuite.Decimal

open Float.Model (UnpackedFloat)
open Float.Model.UnpackedFloat

/-! ## Whole numbers -/

/-- **A number is rounded to a whole one**, halves to even. -/
def RoundsTo (y : ℚ) (r : ℕ) : Prop :=
  (r : ℚ) - 1 / 2 ≤ y ∧ y ≤ r + 1 / 2 ∧ (r % 2 = 1 → (r : ℚ) - 1 / 2 < y ∧ y < r + 1 / 2)

theorem roundsTo_nat (n : ℕ) : RoundsTo n n := ⟨by linarith, by linarith, fun _ => ⟨by linarith, by linarith⟩⟩

theorem RoundsTo.mono {y z : ℚ} {r s : ℕ} (hr : RoundsTo y r) (hs : RoundsTo z s) (le : y ≤ z) : r ≤ s := by
  by_contra more
  have down := hr.1
  have up := hs.2.1
  have next : ((s + 1 : ℕ) : ℚ) ≤ r := by exact_mod_cast Nat.lt_of_not_le more
  have once : ((r : ℕ) : ℚ) ≤ ((s + 1 : ℕ) : ℚ) := by
    push_cast
    linarith
  obtain rfl : r = s + 1 := by exact_mod_cast le_antisymm once next
  push_cast at down next
  -- both are halfway between the same two numbers, one of which is odd
  rcases Nat.mod_two_eq_zero_or_one s with even | odd
  · have above := (hr.2.2 (by omega)).1
    push_cast at above
    linarith
  · have below := (hs.2.2 odd).2
    linarith

/-- A quotient is rounded as the mantissa of a double is. -/
theorem roundHalfEven_eq (num : ℕ) {den : ℕ} (pos : 0 < den) : roundHalfEven num den =
    (ExtendedMantissa.ofMantissaAndAccuracy (num / den) (accuracyOfFraction (num % den) den)).roundedMantissa := by
  unfold roundHalfEven accuracyOfFraction
  dsimp only
  generalize num % den = r
  generalize num / den = q
  by_cases none : r = 0
  · subst none
    rw [if_pos (by omega), if_pos rfl]
    rfl
  · rw [if_neg none]
    rcases Nat.lt_trichotomy (2 * r) den with less | half | more
    · rw [if_pos less, Nat.compare_eq_lt.2 less]
      rfl
    · rw [if_neg (by omega), if_neg (by omega), Nat.compare_eq_eq.2 half]
      show _ = q + q % 2
      split <;> omega
    · rw [if_neg (by omega), if_pos more, Nat.compare_eq_gt.2 more]
      rfl

theorem roundsTo_scaledRound (places : ℕ) (x : Binary) :
    RoundsTo (x.value * 10 ^ places) (scaledRound places x) := by
  have two : (2 : ℚ) ≠ 0 := by norm_num
  have pos : 0 < 1 <<< (-x.exponent).toNat := by
    rw [Nat.one_shiftLeft]
    exact Nat.two_pow_pos _
  have rounds := (describes_quotient ((x.mantissa * Nat.pow 10 places) <<< x.exponent.toNat) pos).rounded
  rw [← roundHalfEven_eq _ pos] at rounds
  have same : (((x.mantissa * Nat.pow 10 places) <<< x.exponent.toNat : ℕ) : ℚ) /
      (1 <<< (-x.exponent).toNat : ℕ) = x.value * 10 ^ places := by
    rw [Nat.shiftLeft_eq, Nat.one_shiftLeft, Nat.pow_eq, Binary.value]
    push_cast
    rw [pow_toNat two x.exponent, ← mul_assoc, mul_div_cancel_right₀ _ (pow_ne_zero _ two)]
    ring
  rwa [same] at rounds

/-- **What is shown keeps order.** -/
theorem scaledRound_mono (places : ℕ) {x y : Binary} (le : x.value ≤ y.value) :
    scaledRound places x ≤ scaledRound places y :=
  (roundsTo_scaledRound places x).mono (roundsTo_scaledRound places y) (mul_le_mul_of_nonneg_right le (by positivity))

/-! ## Doubles -/

/-- **A number is rounded to a double**: to a whole number of the last bit that a double of this size has. -/
def Rounded (v x : ℚ) : Prop :=
  ∃ (q : ℤ) (r : ℕ), (q = -1074 ∨ -1074 < q ∧ 2 ^ 52 ≤ v / 2 ^ q) ∧ v / 2 ^ q < 2 ^ 53 ∧ RoundsTo (v / 2 ^ q) r ∧
    x = r * 2 ^ q

theorem Rounded.mono {v w x y : ℚ} (hx : Rounded v x) (hy : Rounded w y) (le : v ≤ w) : x ≤ y := by
  obtain ⟨q, r, full, short, rounds, rfl⟩ := hx
  obtain ⟨p, s, full', short', rounds', rfl⟩ := hy
  have unit : ∀ q : ℤ, (0 : ℚ) < 2 ^ q := fun q => zpow_pos (by norm_num) q
  rcases lt_trichotomy q p with lt | rfl | gt
  · have most : r ≤ 2 ^ 53 := rounds.mono (roundsTo_nat _) (by push_cast; exact short.le)
    have least : 2 ^ 52 ≤ s := (roundsTo_nat _).mono rounds' (by push_cast; exact (full'.resolve_left (by omega)).2)
    calc (r : ℚ) * 2 ^ q ≤ 2 ^ 53 * 2 ^ q := mul_le_mul_of_nonneg_right (by exact_mod_cast most) (unit q).le
      _ ≤ 2 ^ 52 * 2 ^ p := full_le_full lt
      _ ≤ s * 2 ^ p := mul_le_mul_of_nonneg_right (by exact_mod_cast least) (unit p).le
  · have least : r ≤ s := rounds.mono rounds' (div_le_div_of_nonneg_right le (unit q).le)
    exact mul_le_mul_of_nonneg_right (by exact_mod_cast least) (unit q).le
  · have above := (le_div_iff₀ (unit q)).1 (full.resolve_left (by omega)).2
    have below := (div_lt_iff₀ (unit p)).1 short'
    have := full_le_full gt
    linarith

/-- What is left of a long mantissa has 53 bits, or fewer if its last bit is the last that any double has. -/
theorem rounded_shiftRight {m : ℕ} {e : ℤ} {k : ℕ} (long : 52 ≤ m.log2)
    (amount : (max (m.log2 + e - 52) (-1074) - e).toNat = k) :
    ∃ r, (ExtendedMantissa.ofMantissaAndAccuracy m .exact >>> k).roundedMantissa = r ∧ r ≤ 2 ^ 53 ∧
      (e + k = -1074 ∨ -1074 < e + k ∧ 2 ^ 52 ≤ r) ∧ Rounded (m * 2 ^ e) (r * 2 ^ (e + k)) := by
  have some : m ≠ 0 := by
    rintro rfl
    rw [Nat.log2_zero] at long
    omega
  obtain ⟨least, most⟩ := (Nat.log2_eq_iff some).1 rfl
  have reach : (e + k = -1074 ∨ -1074 < e + k ∧ m.log2 = 52 + k) ∧ m.log2 + 1 ≤ 53 + k := by omega
  have unit : (0 : ℚ) < 2 ^ k := by positivity
  have cut : (m : ℚ) * 2 ^ e / 2 ^ (e + k) = m / 2 ^ k := by
    rw [zpow_add₀ (by norm_num : (2 : ℚ) ≠ 0), zpow_natCast, mul_comm ((2 : ℚ) ^ e), ← div_div,
      mul_div_right_comm, mul_div_cancel_right₀ _ (zpow_ne_zero e (by norm_num))]
  have short : (m : ℚ) / 2 ^ k < 2 ^ 53 := by
    rw [div_lt_iff₀ unit, ← pow_add]
    exact_mod_cast Nat.lt_of_lt_of_le most (Nat.pow_le_pow_right (by decide) reach.2)
  have full : e + k = -1074 ∨ -1074 < e + k ∧ 2 ^ 52 ≤ (m : ℚ) / 2 ^ k := by
    refine reach.1.imp_right fun ⟨above, bits⟩ => ⟨above, ?_⟩
    rw [le_div_iff₀ unit, ← pow_add, ← bits]
    exact_mod_cast least
  have exact : Describes (.ofMantissaAndAccuracy m .exact) (m : ℚ) := rfl
  have rounds : RoundsTo (m / 2 ^ k) _ := (exact.shiftRight k).rounded
  refine ⟨_, rfl, rounds.mono (roundsTo_nat _) (by push_cast; exact short.le), ?_, e + k, _, ?_, ?_, ?_, rfl⟩
  · exact full.imp_right (And.imp_right fun above => (roundsTo_nat _).mono rounds (by push_cast; exact above))
  · rwa [cut]
  · rwa [cut]
  · rwa [cut]

/-- **A long mantissa is rounded to a double.** -/
theorem roundWithAccuracy_unpacked (s : Bool) {m : ℕ} {e : ℤ} (long : 52 ≤ m.log2) (high : m.log2 + e ≤ 1022) :
    ∃ x : Binary, x.Canonical ∧ x.negative = s ∧ Rounded (m * 2 ^ e) x.value ∧
      roundWithAccuracy Float.Model.Format.binary64 (if s then .negative else .positive) m e .exact = x.unpacked := by
  obtain ⟨k, amount⟩ : ∃ k, (max (m.log2 + e - 52) (-1074) - e).toNat = k := ⟨_, rfl⟩
  obtain ⟨r, hr, most, full, rounded⟩ := rounded_shiftRight long amount
  have result := roundWithAccuracy_of_rounded (if s then .negative else .positive) amount hr (by omega) most
  by_cases carry : r = 2 ^ 53
  · subst carry
    refine ⟨⟨s, 2 ^ 52, e + k + 1, false⟩, ⟨by norm_num, by dsimp only; omega, by dsimp only; omega, .inr le_rfl⟩, rfl,
      ?_, ?_⟩
    · have same : ((2 ^ 53 : ℕ) : ℚ) * 2 ^ (e + k) = ((2 ^ 52 : ℕ) : ℚ) * 2 ^ (e + k + 1) := by
        rw [zpow_add_one₀ (by norm_num : (2 : ℚ) ≠ 0)]
        push_cast
        ring
      rwa [same] at rounded
    · rw [result, if_pos rfl, Binary.unpacked, dif_pos (Nat.two_pow_pos 52)]
      rfl
  · refine ⟨⟨s, r, e + k, false⟩, ⟨by dsimp only; omega, by dsimp only; omega, by dsimp only; omega,
      full.imp_right And.right⟩, rfl, rounded, ?_⟩
    rw [result, if_neg carry]
    rfl

theorem sign_mul_sign (a b : Binary) : a.sign * b.sign = if (a.negative != b.negative) then .negative else .positive := by
  unfold Binary.sign
  cases a.negative <;> cases b.negative <;> rfl

theorem mul_unpacked {a b : Binary} (ha : a.Canonical) (hb : b.Canonical) (full : 2 ^ 52 ≤ b.mantissa)
    (bounded : a.exponent + b.exponent ≤ 916) : ∃ p : Binary, p.Canonical ∧ p.negative = (a.negative != b.negative) ∧
      Rounded (a.value * b.value) p.value ∧ UnpackedFloat.mul .binary64 a.unpacked b.unpacked = p.unpacked := by
  have posb : 0 < b.mantissa := Nat.lt_of_lt_of_le (Nat.two_pow_pos 52) full
  rcases Nat.eq_zero_or_pos a.mantissa with zero | posa
  · refine ⟨⟨a.negative != b.negative, 0, -1074, false⟩, ⟨by norm_num, le_rfl, by norm_num, .inl rfl⟩, rfl, ?_, ?_⟩
    · rw [Binary.value_eq_zero zero, zero_mul]
      exact ⟨-1074, 0, .inl rfl, by norm_num, by simpa using roundsTo_nat 0, rfl⟩
    · rw [Binary.unpacked, Binary.unpacked, Binary.unpacked, dif_neg (Nat.not_lt.2 zero.le), dif_pos posb,
        dif_neg (Nat.lt_irrefl 0), UnpackedFloat.mul, sign_mul_sign]
      rfl
  · have least : 2 ^ 52 ≤ a.mantissa * b.mantissa := Nat.le_trans full (Nat.le_mul_of_pos_left _ posa)
    have most : a.mantissa * b.mantissa < 2 ^ 106 := by
      rw [show (106 : ℕ) = 53 + 53 by rfl, pow_add]
      exact Nat.mul_lt_mul'' ha.high hb.high
    have some : a.mantissa * b.mantissa ≠ 0 := by omega
    have long : 52 ≤ (a.mantissa * b.mantissa).log2 := (Nat.le_log2 some).2 least
    have bits : (a.mantissa * b.mantissa).log2 < 106 := (Nat.log2_lt some).2 most
    obtain ⟨p, canonical, negative, rounded, computed⟩ :=
      roundWithAccuracy_unpacked (a.negative != b.negative) (e := a.exponent + b.exponent) long (by omega)
    refine ⟨p, canonical, negative, ?_, ?_⟩
    · have same : ((a.mantissa * b.mantissa : ℕ) : ℚ) * 2 ^ (a.exponent + b.exponent) = a.value * b.value := by
        rw [Binary.value, Binary.value, zpow_add₀ (by norm_num : (2 : ℚ) ≠ 0)]
        push_cast
        ring
      rwa [same] at rounded
    · rw [← computed, Binary.unpacked, Binary.unpacked, dif_pos posa, dif_pos posb, UnpackedFloat.mul, sign_mul_sign]

/-- **A product of doubles is their exact product, rounded.** -/
theorem readFloat_mul {x y : Float} {a b : Binary} (hx : readFloat x = .finite a) (hy : readFloat y = .finite b)
    (full : 2 ^ 52 ≤ b.mantissa) (bounded : a.exponent + b.exponent ≤ 916) :
    ∃ p, readFloat (x * y) = .finite p ∧ p.negative = (a.negative != b.negative) ∧
      Rounded (a.value * b.value) p.value := by
  have product : x * y = Float.ofModel (.pack (UnpackedFloat.mul .binary64 a.unpacked b.unpacked)) := by
    show Float.ofModel (.pack (UnpackedFloat.mul .binary64 x.toModel.unpack y.toModel.unpack)) = _
    rw [unpack_toModel, unpack_toModel, hx, hy]
    rfl
  obtain ⟨p, canonical, negative, rounded, computed⟩ :=
    mul_unpacked (canonical_of_readFloat hx) (canonical_of_readFloat hy) full bounded
  obtain ⟨c, read, negative', mantissa, exponent⟩ := Binary.readFloat_pack canonical
  have value : c.value = p.value := by rw [Binary.value, Binary.value, mantissa, exponent]
  refine ⟨c, ?_, negative'.trans negative, ?_⟩
  · rw [product, computed, read]
  · rwa [value]

end BenchSuite.Decimal
