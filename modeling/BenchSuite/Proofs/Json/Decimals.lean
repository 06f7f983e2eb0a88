import BenchSuite.Clock
import BenchSuite.Proofs.Decimal.Rounding
import BenchSuite.Proofs.Decimal.Search
import BenchSuite.Proofs.Json.Members
/-!
# Decimals that are read as they were written

A numeral is read by one division of its digits by a power of ten, and is rounded once where both are doubles.  They
are for a double that is nearest to a decimal of at most fifteen digits, since the fewest digits that are written for it
are no more than these (`digits_of_nearestTo`); so such a double comes back as it was (`toFloat?_float_of_short`).
-/
namespace BenchSuite.Json

open Decimal

/-! ## The digits that are read -/

theorem scaledDigits_of_lt {n : Numeral} (fits : ofDigits (n.whole ++ n.fraction) < UInt64.size) :
    scaledDigits n = (ofDigits (n.whole ++ n.fraction), powerOf n - n.fraction.length) := by
  have all := ofDigits_append n.whole n.fraction
  have grows : ofDigits n.whole ≤ ofDigits n.whole * 10 ^ n.fraction.length :=
    Nat.le_mul_of_pos_right _ (Nat.pow_pos (by decide))
  have whole := takeDigits_of_lt n.whole 0 (by omega)
  have fraction := takeDigits_of_lt n.fraction (ofDigits n.whole) (by omega)
  rw [Nat.zero_mul, Nat.zero_add] at whole
  rw [scaledDigits, whole]
  simp only [if_true, fraction, List.length_nil, Nat.sub_zero, all]

theorem scaledDigits_inPlace_whole (negative : Bool) {d : Scaled} (whole : 0 ≤ d.exponent)
    (fits : d.digits * 10 ^ d.exponent.toNat * 10 < UInt64.size) :
    scaledDigits (.inPlace negative true d) = (d.digits * 10 ^ d.exponent.toNat * 10, -1) := by
  have some : 0 < (digitsOf d.digits).length := List.length_pos_of_ne_nil (digitsOf_ne_nil _)
  have place : (Numeral.inPlace negative true d).whole = digitsOf d.digits ++ List.replicate d.exponent.toNat 0 := by
    rw [Numeral.inPlace]
    dsimp only
    rw [if_neg (by omega), List.take_of_length_le (by omega)]
  have point : (Numeral.inPlace negative true d).fraction = [0] := by
    rw [Numeral.inPlace]
    dsimp only
    rw [if_pos whole, if_pos rfl]
  have zeros : ofDigits (List.replicate d.exponent.toNat 0) = 0 := by
    rw [← List.append_nil (List.replicate _ _), ofDigits_zeros]
    rfl
  have number : ofDigits ((Numeral.inPlace negative true d).whole ++ (Numeral.inPlace negative true d).fraction) =
      d.digits * 10 ^ d.exponent.toNat * 10 := by
    rw [place, point, ofDigits_append, ofDigits_append, ofDigits_digitsOf, zeros, List.length_replicate]
    rfl
  rw [scaledDigits_of_lt (number ▸ fits), number, point]
  rfl

theorem scaledDigits_inPlace_fraction (negative : Bool) {d : Scaled} (below : d.exponent < 0)
    (fits : d.digits < UInt64.size) : scaledDigits (.inPlace negative true d) = (d.digits, d.exponent) := by
  generalize hl : (digitsOf d.digits).length = len
  have point : (Numeral.inPlace negative true d).fraction =
      List.replicate (-(len + d.exponent)).toNat 0 ++ (digitsOf d.digits).drop (len + d.exponent).toNat := by
    rw [Numeral.inPlace]
    dsimp only
    rw [if_neg (by omega), hl]
  have places : ((Numeral.inPlace negative true d).fraction.length : Int) = -d.exponent := by
    rw [point, List.length_append, List.length_replicate, List.length_drop, hl]
    omega
  have number : ofDigits ((Numeral.inPlace negative true d).whole ++ (Numeral.inPlace negative true d).fraction) =
      d.digits := by
    rw [point, Numeral.inPlace]
    dsimp only
    rw [hl]
    by_cases small : (len : Int) + d.exponent ≤ 0
    · rw [if_pos small, Int.toNat_of_nonpos small, List.drop_zero, ← List.append_assoc,
        show [0] ++ List.replicate (-(len + d.exponent)).toNat (0 : Digit) =
          List.replicate ((-(len + d.exponent)).toNat + 1) 0 by rw [List.replicate_succ]; rfl,
        ofDigits_zeros, ofDigits_digitsOf]
    · rw [if_neg small, show (-(len + d.exponent)).toNat = 0 by omega, show d.exponent.toNat = 0 by omega]
      simp [ofDigits_digitsOf]
  rw [scaledDigits_of_lt (number ▸ fits), number, places]
  show (d.digits, 0 - -d.exponent) = _
  rw [zero_sub, neg_neg]

theorem length_add_le {n e width : Nat} (some : 0 < n) (short : n * 10 ^ e < 10 ^ width) :
    (digitsOf n).length + e ≤ width := by
  have room : e < width := (Nat.pow_lt_pow_iff_right (show 1 < 10 by decide)).1
    (Nat.lt_of_le_of_lt (Nat.le_mul_of_pos_left _ some) short)
  have rest : n < 10 ^ (width - e) := by
    refine Nat.lt_of_mul_lt_mul_right (a := 10 ^ e) ?_
    rwa [← Nat.pow_add, Nat.sub_add_cancel room.le]
  have := length_digitsOf_le (by omega) rest
  omega

theorem powerOf_ofInt {n : Numeral} {e : Int} (power : n.power = some (.ofInt e)) (fits : e.natAbs < UInt64.size) :
    powerOf n = e := by
  have size := takeDigits_of_lt (digitsOf e.natAbs) 0
  rw [ofDigits_digitsOf, Nat.zero_mul, Nat.zero_add] at size
  rw [powerOf, power]
  simp only [PowerOfTen.ofInt, size fits, decide_eq_true_eq]
  split <;> omega

theorem scaledDigits_scientific (negative : Bool) {d : Scaled} (fits : d.digits < UInt64.size)
    (power : ((digitsOf d.digits).length - 1 + d.exponent).natAbs < UInt64.size) :
    scaledDigits (.scientific negative d) = (d.digits, d.exponent) := by
  have some : 0 < (digitsOf d.digits).length := List.length_pos_of_ne_nil (digitsOf_ne_nil _)
  have number : ofDigits ((Numeral.scientific negative d).whole ++ (Numeral.scientific negative d).fraction) =
      d.digits := by
    show ofDigits ((digitsOf d.digits).take 1 ++ (digitsOf d.digits).drop 1) = _
    rw [List.take_append_drop, ofDigits_digitsOf]
  have places : (Numeral.scientific negative d).fraction.length = (digitsOf d.digits).length - 1 := List.length_drop
  rw [scaledDigits_of_lt (number ▸ fits), number, places, powerOf_ofInt rfl power]
  refine Prod.ext rfl ?_
  dsimp only
  omega

/-- **The digits of a double are read without loss** if they are few: they make a word that is a double, and so does the
power of ten by which it is divided. -/
theorem scaledDigits_ofScaled (negative : Bool) {d : Scaled} (some : 0 < d.digits)
    (few : d.digits * 10 ^ d.exponent.toNat < 2 ^ 50) (places : -22 ≤ d.exponent) :
    ∃ w j : Nat, scaledDigits (.ofScaled jsonStyle64 negative d) = (w, -(j : Int)) ∧ 0 < w ∧ 0 < j ∧ j ≤ 22 ∧
      (w < 2 ^ 53 ∨ w < 2 ^ 54 ∧ w % 2 = 0) ∧ (w : ℚ) / 10 ^ j = d.value := by
  have word : UInt64.size = 2 ^ 64 := rfl
  have grows : d.digits ≤ d.digits * 10 ^ d.exponent.toNat := Nat.le_mul_of_pos_right _ (Nat.pow_pos (by decide))
  have width := length_digitsOf_le (show 0 < 16 by decide) (show d.digits < 10 ^ 16 by omega)
  rw [Numeral.ofScaled]
  simp only [jsonStyle64]
  by_cases whole : 0 ≤ d.exponent
  · obtain ⟨e, power⟩ := Int.eq_ofNat_of_zero_le whole
    rw [power, Int.toNat_natCast] at few grows
    have length := length_add_le (e := e) some (show d.digits * 10 ^ e < 10 ^ 16 by omega)
    rw [if_pos (by omega), scaledDigits_inPlace_whole negative whole (by rw [power, Int.toNat_natCast]; omega)]
    refine ⟨_, 1, rfl, ?_, by decide, by decide, .inr ?_, ?_⟩
    · rw [power, Int.toNat_natCast]
      omega
    · rw [power, Int.toNat_natCast]
      omega
    · rw [Scaled.value, power, Int.toNat_natCast, zpow_natCast]
      push_cast
      ring
  · obtain ⟨j, power⟩ : ∃ j : Nat, d.exponent = -(j : Int) := ⟨(-d.exponent).toNat, by omega⟩
    have value : (d.digits : ℚ) / 10 ^ j = d.value := by
      rw [Scaled.value, power, zpow_neg, zpow_natCast, div_eq_mul_inv]
    refine ⟨d.digits, j, ?_, some, by omega, by omega, .inl (by omega), value⟩
    rw [← power]
    split
    · exact scaledDigits_inPlace_fraction negative (by omega) (by omega)
    · exact scaledDigits_scientific negative (by omega) (by omega)

/-! ## Written and read -/

theorem scale_down (f : Float) {j : Nat} (pos : 0 < j) (few : j ≤ 308) :
    scale 8 f (-(j : Int)) = some (f / tenTo j) := by
  have size : (-(j : Int)).natAbs = j := by omega
  rw [scale, size, if_pos few, if_neg (by omega)]

/-- The decimal that is written for a double near a short one is short itself. -/
theorem digits_of_nearestTo {x : Binary} (h : x.Normal) {n e : Nat} (pos : 0 < n) (few : n ≤ 10 ^ 15)
    (near : x.NearestTo (n / 10 ^ e)) {d : Scaled} (back : x.NearestTo d.value) (coarse : -(e : Int) ≤ d.exponent) :
    0 < d.digits ∧ d.digits * 10 ^ d.exponent.toNat < 2 ^ 50 := by
  have above := near.le_mul h back
  have below := back.le_mul h near
  have ten : (0 : ℚ) < 10 ^ e := by positivity
  have some : (0 : ℚ) < n / 10 ^ e := div_pos (by exact_mod_cast pos) ten
  have value : ((d.digits * 10 ^ d.exponent.toNat : ℕ) : ℚ) = d.value * 10 ^ (-d.exponent).toNat := by
    push_cast
    rw [Scaled.value, mul_assoc, ← pow_toNat (by norm_num)]
  constructor
  · refine Nat.pos_of_ne_zero fun none => ?_
    rw [Scaled.value, none, Nat.cast_zero, zero_mul] at below
    linarith
  · have short : ((d.digits * 10 ^ d.exponent.toNat : ℕ) : ℚ) < (2 ^ 50 : ℕ) :=
      calc ((d.digits * 10 ^ d.exponent.toNat : ℕ) : ℚ) = d.value * 10 ^ (-d.exponent).toNat := value
        _ ≤ d.value * 10 ^ e :=
          mul_le_mul_of_nonneg_left (pow_le_pow_right₀ (by norm_num) (by omega)) (by linarith)
        _ ≤ 9 / 8 * (n / 10 ^ e) * 10 ^ e := mul_le_mul_of_nonneg_right above ten.le
        _ = 9 / 8 * n := by rw [mul_assoc, div_mul_cancel₀ _ ten.ne']
        _ ≤ 9 / 8 * (10 ^ 15 : ℕ) := mul_le_mul_of_nonneg_left (by exact_mod_cast few) (by norm_num)
        _ < (2 ^ 50 : ℕ) := by norm_num
    exact_mod_cast short

theorem negative_ofScaled (style : Style) (negative : Bool) (d : Scaled) :
    (Numeral.ofScaled style negative d).negative = negative := by
  unfold Numeral.ofScaled
  split
  · rfl
  · dsimp only
    split <;> rfl

/-- **A double that is nearest to a decimal of at most fifteen digits is read as it was written.** -/
theorem numeralToFloat?_ofBinary {x : Binary} (h : x.Normal) {n e : Nat} (pos : 0 < n) (few : n ≤ 10 ^ 15)
    (places : e ≤ 22) (near : x.NearestTo (n / 10 ^ e)) :
    numeralToFloat? (.ofBinary jsonStyle64 x) = some x.toFloat := by
  have near' : x.NearestTo (n * 10 ^ (-(e : ℤ))) := by
    rwa [zpow_neg, zpow_natCast, ← div_eq_mul_inv]
  obtain ⟨back, coarse⟩ := shortest_of_nearestTo .toEven h pos (by omega) near'
  show numeralToFloat? (.ofScaled jsonStyle64 x.negative (shortest .toEven x)) = _
  generalize shortest .toEven x = d at back coarse
  obtain ⟨digits, short⟩ := digits_of_nearestTo h pos few near back coarse
  obtain ⟨w, j, scaled, pos', some', few', exact, same⟩ := scaledDigits_ofScaled x.negative digits short (by omega)
  rw [numeralToFloat?, scaled]
  dsimp only
  rw [scale_down _ some' (by omega), div_tenTo_eq pos' exact few' h.abs rfl (same ▸ back), negative_ofScaled,
    Option.map_some, signed_toFloat h]

/-! ## Short doubles -/

/-- **A short double**: a decimal of at most fifteen digits, as near as it gets, with either sign. -/
def Short (x : Float) : Prop := ∃ n e : Nat, n ≤ 10 ^ 15 ∧ e ≤ 22 ∧
  (x = (UInt64.ofNat n).toFloat / tenTo e ∨ x = -((UInt64.ofNat n).toFloat / tenTo e))

theorem tenTo_six : tenTo 6 = 1000000 := by decide +kernel

/-- A whole number of nanoseconds, as milliseconds, is short, up to eleven days and a half. -/
theorem short_ticksToMs {m : Type → Type} (now : m Nat) {ticks : UInt64} (few : ticks.toNat ≤ 10 ^ 15) :
    Short ((Clock.monotonic now).ticksToMs ticks) := by
  refine ⟨ticks.toNat, 6, few, by decide, .inl ?_⟩
  rw [UInt64.ofNat_toNat, tenTo_six]
  rfl

theorem zero_div_tenTo : ∀ e ≤ 22, (UInt64.ofNat 0).toFloat / tenTo e = 0.0 := by decide +kernel

theorem toFloat?_float_zero : (float 0.0).toFloat? = some 0.0 ∧ (float (-0.0)).toFloat? = some (-0.0) := by
  decide +kernel

/-- **A short double comes back from its text.** -/
theorem toFloat?_float_of_short {x : Float} (short : Short x) : (float x).toFloat? = some x := by
  obtain ⟨n, e, few, places, sign⟩ := short
  rcases Nat.eq_zero_or_pos n with rfl | pos
  · rw [zero_div_tenTo e places] at sign
    rcases sign with rfl | rfl
    · exact toFloat?_float_zero.1
    · exact toFloat?_float_zero.2
  · have back {y : Binary} (h : y.Normal) (near : y.NearestTo (n / 10 ^ e)) :
        (float y.toFloat).toFloat? = some y.toFloat := by
      rw [float, readFloat_toFloat h]
      exact numeralToFloat?_ofBinary h pos few places near
    obtain ⟨y, h, near, up, quotient⟩ := div_tenTo pos (.inl (by omega)) places
    rw [quotient] at sign
    rcases sign with rfl | rfl
    · exact back h near
    · rw [neg_toFloat h]
      exact back ⟨h.low, h.high, h.lowest, h.highest, h.narrow⟩ near

end BenchSuite.Json
