import BenchSuite.Proofs.Decimal.Nearest
import Mathlib
/-!
# The words of doubles

A finite double is unpacked from its word as it was packed into it (`unpack_pack`).  One with a full mantissa is packed
into the word that `Format.decode` reads as its value (`decode_pack`), and the arithmetic of `Float` unpacks it to the
same mantissa and exponent (`unpack_toFloat`).  So a fact about the values of doubles becomes one about `Float`s through
`Binary.toFloat`.
-/
namespace BenchSuite.Decimal

open Float.Model (UnpackedFloat)
open Float.Model.UnpackedFloat (Sign packComponents)

namespace Binary

def sign (x : Binary) : Sign := if x.negative then .negative else .positive

/-- What the word of a finite double holds: a mantissa that fills its bits, or one with the least exponent. -/
structure Canonical (x : Binary) : Prop where
  high : x.mantissa < 2 ^ 53
  lowest : -1074 ≤ x.exponent
  highest : x.exponent ≤ 971
  full : x.exponent = -1074 ∨ 2 ^ 52 ≤ x.mantissa

theorem Normal.canonical {x : Binary} (h : x.Normal) : x.Canonical := ⟨h.high, h.lowest.le, h.highest, .inr h.low⟩

end Binary

theorem exponentBias_eq : (Float.Model.Format.binary64.exponentBias : ℤ) = 1023 := rfl

/-- The word of a double with a full mantissa. -/
theorem pack_eq {x : Binary} (h : x.Canonical) (full : 2 ^ 52 ≤ x.mantissa) (s : Sign) (pos : 0 < x.mantissa) :
    UnpackedFloat.pack .binary64 (.finite s x.mantissa x.exponent pos) =
      packComponents .binary64 s (.ofNat 11 (x.exponent + 1075).toNat) (.ofNat 52 x.mantissa) := by
  have bits : x.mantissa.log2 + 1 = Float.Model.Format.binary64.mantissaBits := by
    rw [(Nat.log2_eq_iff pos.ne').2 ⟨full, h.high⟩]
    rfl
  obtain ⟨high, lowest, highest, -⟩ := h
  have biased : (x.exponent + Float.Model.Format.binary64.exponentBias + (52 : ℕ)).toNat =
      (x.exponent + 1075).toNat := by
    rw [exponentBias_eq]
    omega
  have fits : ¬ 2 ^ 11 ≤ (x.exponent + 1075).toNat + 1 := by omega
  simp only [UnpackedFloat.pack, biased, bits, if_neg fits, if_true]

/-- The word of a double with a mantissa that does not fill its bits. -/
theorem pack_eq_short {x : Binary} (h : x.Canonical) (short : x.mantissa < 2 ^ 52) (s : Sign) (pos : 0 < x.mantissa) :
    UnpackedFloat.pack .binary64 (.finite s x.mantissa x.exponent pos) =
      packComponents .binary64 s 0#11 (.ofNat 52 x.mantissa) := by
  have least : x.exponent = -1074 := h.full.resolve_right (by omega)
  have bits : x.mantissa.log2 + 1 ≠ Float.Model.Format.binary64.mantissaBits := by
    have : x.mantissa.log2 < 52 := (Nat.log2_lt pos.ne').2 short
    exact Nat.ne_of_lt (Nat.succ_lt_succ this)
  have fits : ¬ 2 ^ 11 ≤ (x.exponent + Float.Model.Format.binary64.exponentBias + (52 : ℕ)).toNat + 1 := by
    rw [exponentBias_eq]
    omega
  simp only [UnpackedFloat.pack, if_neg fits, if_neg bits]

theorem unpack_pack_full {x : Binary} (h : x.Canonical) (full : 2 ^ 52 ≤ x.mantissa) (s : Sign) (pos : 0 < x.mantissa) :
    UnpackedFloat.unpack .binary64 (UnpackedFloat.pack .binary64 (.finite s x.mantissa x.exponent pos)) =
      .finite s x.mantissa x.exponent pos := by
  obtain ⟨high, lowest, highest, -⟩ := id h
  have field : (BitVec.ofNat 11 (x.exponent + 1075).toNat).toNat = (x.exponent + 1075).toNat := by
    rw [BitVec.toNat_ofNat, Nat.mod_eq_of_lt (by omega)]
  have top : BitVec.ofNat 11 (x.exponent + 1075).toNat ≠ -1#11 := fun same => by
    have := congrArg BitVec.toNat same
    rw [field, BitVec.neg_one_eq_allOnes, BitVec.toNat_allOnes] at this
    omega
  have zero : BitVec.ofNat 11 (x.exponent + 1075).toNat ≠ 0#11 := fun same => by
    have := congrArg BitVec.toNat same
    rw [field, BitVec.toNat_zero] at this
    omega
  have mantissa : (1#1 ++ BitVec.ofNat 52 x.mantissa).toNat = x.mantissa := by
    rw [BitVec.toNat_append, ← Nat.shiftLeft_add_eq_or_of_lt (BitVec.isLt _), BitVec.toNat_ofNat]
    norm_num [Nat.shiftLeft_eq]
    omega
  have exponent : ((x.exponent + 1075).toNat : ℤ) -
      (Float.Model.Format.binary64.exponentBias + (52 : ℕ)) = x.exponent := by
    rw [exponentBias_eq]
    omega
  rw [pack_eq h full, UnpackedFloat.unpack]
  simp only [UnpackedFloat.unpackMantissa_packComponents, UnpackedFloat.unpackExponent_packComponents,
    UnpackedFloat.unpackSign_packComponents, Sign.ofBitVec_toBitVec, if_neg top, if_neg zero, field, mantissa, exponent]

theorem unpack_pack_short {x : Binary} (h : x.Canonical) (short : x.mantissa < 2 ^ 52) (s : Sign)
    (pos : 0 < x.mantissa) :
    UnpackedFloat.unpack .binary64 (UnpackedFloat.pack .binary64 (.finite s x.mantissa x.exponent pos)) =
      .finite s x.mantissa x.exponent pos := by
  have least : x.exponent = -1074 := h.full.resolve_right (by omega)
  have mantissa : (BitVec.ofNat 52 x.mantissa).toNat = x.mantissa := by
    rw [BitVec.toNat_ofNat, Nat.mod_eq_of_lt short]
  have some : BitVec.ofNat 52 x.mantissa ≠ 0#52 := fun same => by
    have := congrArg BitVec.toNat same
    rw [mantissa, BitVec.toNat_zero] at this
    omega
  have exponent : ((0#11).toNat : ℤ) - (Float.Model.Format.binary64.exponentBias + (52 : ℕ)) + 1 = x.exponent := by
    rw [exponentBias_eq, least]
    rfl
  have top : ¬ (0#11 = -1#11) := by decide
  rw [pack_eq_short h short, UnpackedFloat.unpack]
  simp only [UnpackedFloat.unpackMantissa_packComponents, UnpackedFloat.unpackExponent_packComponents,
    UnpackedFloat.unpackSign_packComponents, Sign.ofBitVec_toBitVec, if_neg top, if_true, dif_neg some, mantissa,
    exponent]

/-- **What was packed is unpacked.** -/
theorem unpack_pack {x : Binary} (h : x.Canonical) (s : Sign) (pos : 0 < x.mantissa) :
    UnpackedFloat.unpack .binary64 (UnpackedFloat.pack .binary64 (.finite s x.mantissa x.exponent pos)) =
      .finite s x.mantissa x.exponent pos :=
  (Nat.lt_or_ge x.mantissa (2 ^ 52)).elim (unpack_pack_short h · s pos) (unpack_pack_full h · s pos)

/-- The word of a double in numbers: its sign, its exponent and what of its mantissa is stored. -/
theorem toNat_pack {x : Binary} (h : x.Normal) (pos : 0 < x.mantissa) :
    (UnpackedFloat.pack .binary64 (.finite x.sign x.mantissa x.exponent pos)).toNat =
      ((if x.negative then 2 ^ 11 else 0) + (x.exponent + 1075).toNat) * 2 ^ 52 + (x.mantissa - 2 ^ 52) := by
  obtain ⟨low, high, lowest, highest, -⟩ := id h
  rw [pack_eq h.canonical h.low, packComponents, BitVec.toNat_append, BitVec.toNat_append,
    ← Nat.shiftLeft_add_eq_or_of_lt (BitVec.isLt _), ← Nat.shiftLeft_add_eq_or_of_lt (BitVec.isLt _),
    BitVec.toNat_ofNat, BitVec.toNat_ofNat, Binary.sign]
  cases x.negative <;> norm_num [Nat.shiftLeft_eq, Sign.toBitVec] <;> omega

theorem decode_word (negative : Bool) {field fraction : ℕ} (low : 0 < field) (high : field < 2 ^ 11 - 1)
    (short : fraction < 2 ^ 52) :
    Format.binary64.decode (((if negative then 2 ^ 11 else 0) + field) * 2 ^ 52 + fraction) =
      .finite ⟨negative, 2 ^ 52 + fraction, field - 1075, fraction == 0 && decide (1 < field)⟩ := by
  generalize hb : ((if negative then 2 ^ 11 else 0) + field) * 2 ^ 52 + fraction = bits
  have lower : bits % 2 ^ 52 = fraction := by omega
  have upper : bits / 2 ^ 52 = (if negative then 2 ^ 11 else 0) + field := by omega
  have middle : bits / 2 ^ 52 % 2 ^ 11 = field := by
    rw [upper]
    cases negative <;> simp only [if_true, if_false, Bool.false_eq_true] <;> omega
  have sign : bits.testBit 63 = negative := by
    have top : bits / 2 ^ 63 = if negative then 1 else 0 := by
      rw [show (2 : ℕ) ^ 63 = 2 ^ 52 * 2 ^ 11 by norm_num, ← Nat.div_div_eq_div_mul, upper]
      cases negative <;> simp only [if_true, if_false, Bool.false_eq_true] <;> omega
    rw [Nat.testBit_eq_decide_div_mod_eq, top]
    cases negative <;> rfl
  unfold Format.decode
  simp only [Format.binary64, Nat.shiftRight_eq_div_pow, Nat.shiftLeft_eq, Nat.one_mul, lower, middle, sign]
  rw [if_neg (by omega), if_neg (by omega), Reading.finite.injEq, Binary.mk.injEq]
  refine ⟨rfl, rfl, ?_, rfl⟩
  norm_num
  omega

/-- **Reading the word of a double gives the double.** -/
theorem decode_pack {x : Binary} (h : x.Normal) (pos : 0 < x.mantissa) :
    Format.binary64.decode (UnpackedFloat.pack .binary64 (.finite x.sign x.mantissa x.exponent pos)).toNat =
      .finite x := by
  obtain ⟨low, high, lowest, highest, narrow⟩ := id h
  rw [toNat_pack h, decode_word _ (by omega) (by omega) (by omega), Reading.finite.injEq]
  obtain ⟨negative, mantissa, exponent, narrowBelow⟩ := x
  dsimp only at low high lowest highest narrow ⊢
  have least : (mantissa - 2 ^ 52 == 0 && decide (1 < (exponent + 1075).toNat)) = narrowBelow := by
    rw [narrow, Bool.eq_iff_iff, Bool.and_eq_true, beq_iff_eq, decide_eq_true_iff, decide_eq_true_iff]
    omega
  rw [least, Binary.mk.injEq]
  exact ⟨rfl, by omega, by omega, rfl⟩

/-! ## Doubles -/

/-- **The double that has a value**, for those whose mantissa is full and for zero. -/
def Binary.toFloat (x : Binary) : Float :=
  .ofModel <| .pack <| if pos : 0 < x.mantissa then .finite x.sign x.mantissa x.exponent pos else .zero x.sign

theorem toModel_toFloat {x : Binary} (h : x.Normal) :
    x.toFloat.toModel = .pack (.finite x.sign x.mantissa x.exponent h.pos) := by
  rw [Binary.toFloat, dif_pos h.pos]

theorem readFloat_toFloat {x : Binary} (h : x.Normal) : readFloat x.toFloat = .finite x := by
  have word : x.toFloat.toBits.toNat =
      (UnpackedFloat.pack .binary64 (.finite x.sign x.mantissa x.exponent h.pos)).toNat := by
    rw [Float.toBits, toModel_toFloat h]
    rfl
  show Format.binary64.decode x.toFloat.toBits.toNat = _
  rw [word, decode_pack h]

theorem unpack_toFloat {x : Binary} (h : x.Normal) :
    x.toFloat.toModel.unpack = .finite x.sign x.mantissa x.exponent h.pos := by
  rw [toModel_toFloat h]
  exact unpack_pack h.canonical _ _

theorem neg_toFloat {x : Binary} (h : x.Normal) : -x.toFloat = { x with negative := !x.negative }.toFloat := by
  show Float.ofModel (.pack x.toFloat.toModel.unpack.neg) = _
  rw [unpack_toFloat h, Binary.toFloat, dif_pos h.pos]
  cases negative : x.negative <;> simp only [Binary.sign, negative] <;> rfl

/-- The size of a double. -/
def Binary.abs (x : Binary) : Binary := { x with negative := false }

theorem Binary.Normal.abs {x : Binary} (h : x.Normal) : x.abs.Normal := ⟨h.low, h.high, h.lowest, h.highest, h.narrow⟩

theorem signed_toFloat {x : Binary} (h : x.Normal) :
    (if x.negative then -x.abs.toFloat else x.abs.toFloat) = x.toFloat := by
  rw [neg_toFloat h.abs]
  obtain ⟨negative, mantissa, exponent, narrowBelow⟩ := x
  cases negative <;> rfl

end BenchSuite.Decimal
