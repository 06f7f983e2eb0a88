import BenchSuite.Proofs.Json.Reading
/-!
# Members and numbers of what is written

The members of a record are found by their keys (`fields_record`), and a count is read as it was written,
as long as it fits into the width that is read.
-/
namespace BenchSuite.Json

open Decimal

/-! ## Values that are written -/

theorem proper_nat (n : Nat) : Proper (.nat n) := .number (strict_nat n)

theorem proper_ofReading (style : Style) (x : Reading) : Proper (ofReading style x) := by
  cases x with
  | finite b => exact .number (strict_ofBinary style b)
  | infinite _ => exact .null
  | nan => exact .null

theorem proper_float (x : Float) : Proper (.float x) := proper_ofReading _ _

theorem proper_float32 (x : Float32) : Proper (.float32 x) := proper_ofReading _ _

theorem proper_record {members : List (String × Json)} (h : ∀ m ∈ members, Proper m.2) : Proper (record members) := by
  refine .object (fun m hm => ?_) (fun m hm => ?_)
  · obtain ⟨⟨k, v⟩, -, rfl⟩ := List.mem_map.1 hm
    exact ⟨k, rfl⟩
  · obtain ⟨m, member, rfl⟩ := List.mem_map.1 hm
    exact h m member

/-! ## Numbers that are not finite -/

theorem decode_finite_iff (f : Format) (bits : Nat) : (∃ b, f.decode bits = .finite b) ↔
    bits / 2 ^ f.fractionBits % 2 ^ f.exponentBits ≠ 2 ^ f.exponentBits - 1 := by
  unfold Format.decode
  simp only [Nat.shiftRight_eq_div_pow, Nat.shiftLeft_eq, Nat.one_mul]
  split
  · rename_i top
    refine ⟨?_, fun other => absurd top other⟩
    rintro ⟨b, h⟩
    split at h <;> cases h
  · rename_i other
    refine ⟨fun _ => other, fun _ => ?_⟩
    split <;> exact ⟨_, rfl⟩

open Float.Model (UnpackedFloat) in
theorem isFinite_unpack (spec : Float.Model.Format) (b : BitVec spec.numBits) :
    (UnpackedFloat.unpack spec b).isFinite = true ↔
      b.toNat / 2 ^ spec.mantissaBitsWithoutImplicit % 2 ^ spec.exponentBits ≠ 2 ^ spec.exponentBits - 1 := by
  have field : (UnpackedFloat.unpackExponent b).toNat =
      b.toNat / 2 ^ spec.mantissaBitsWithoutImplicit % 2 ^ spec.exponentBits := by
    have := spec.he
    rw [UnpackedFloat.unpackExponent, BitVec.toNat_cast, BitVec.extractLsb_toNat, Nat.shiftRight_eq_div_pow]
    congr 2
    omega
  have top : UnpackedFloat.unpackExponent b = -1#_ ↔
      (UnpackedFloat.unpackExponent b).toNat = 2 ^ spec.exponentBits - 1 := by
    rw [← BitVec.toNat_inj, BitVec.neg_one_eq_allOnes, BitVec.toNat_allOnes]
  rw [← field, ne_eq, ← top]
  unfold UnpackedFloat.unpack
  dsimp only
  by_cases all : UnpackedFloat.unpackExponent b = -1#_
  · rw [if_pos all]
    refine ⟨fun h => ?_, fun other => absurd all other⟩
    split at h <;> cases h
  · rw [if_neg all]
    refine ⟨fun _ => all, fun _ => ?_⟩
    by_cases low : UnpackedFloat.unpackExponent b = 0#_
    · rw [if_pos low]
      by_cases none : UnpackedFloat.unpackMantissa b = 0#_
      · rw [dif_pos none]
        rfl
      · rw [dif_neg none]
        rfl
    · rw [if_neg low]
      rfl

theorem isFinite_float_iff (x : Float) : x.isFinite = true ↔ ∃ b, readFloat x = .finite b :=
  (isFinite_unpack .binary64 x.toBits.toBitVec).trans (decode_finite_iff .binary64 x.toBits.toNat).symm

theorem isFinite_float32_iff (x : Float32) : x.isFinite = true ↔ ∃ b, readFloat x = .finite b :=
  (isFinite_unpack .binary32 x.toBits.toBitVec).trans (decode_finite_iff .binary32 x.toBits.toNat).symm

theorem ofReading_eq_null (style : Style) {x : Reading} (h : ¬ ∃ b, x = .finite b) : ofReading style x = .null := by
  cases x with
  | finite b => exact absurd ⟨b, rfl⟩ h
  | infinite _ => rfl
  | nan => rfl

/-- **What is not finite is written as null**, and null is read as no number. -/
theorem toFloat?_float_of_not_finite {x : Float} (h : x.isFinite ≠ true) : (Json.float x).toFloat? = none := by
  rw [float, ofReading_eq_null _ fun finite => h ((isFinite_float_iff x).2 finite)]
  rfl

theorem toFloat32?_float32_of_not_finite {x : Float32} (h : x.isFinite ≠ true) :
    (Json.float32 x).toFloat32? = none := by
  rw [float32, ofReading_eq_null _ fun finite => h ((isFinite_float32_iff x).2 finite)]
  rfl

/-! ## Members -/

theorem withKey_cons (key : String) (k : Option String) (v : Json) (members : List (Option String × Json)) :
    withKey key ((k, v) :: members) = if k = some key then v :: withKey key members else withKey key members := by
  unfold withKey
  rw [List.filterMap_cons]
  by_cases same : k = some key <;> simp [same]

theorem withKey_record : ∀ {members : List (String × Json)}, (members.map (·.1)).Nodup → ∀ key,
    withKey key (members.map fun (k, v) => (some k, v)) = (members.lookup key).toList
  | [], _, _ => rfl
  | (k, v) :: members, once, key => by
    obtain ⟨fresh, once⟩ := List.nodup_cons.1 once
    rw [List.map_cons, withKey_cons, withKey_record once key, List.lookup_cons]
    by_cases same : k = key
    · subst same
      have absent : members.lookup k = none := List.lookup_eq_none_iff.2 fun m hm => by
        rw [bne_iff_ne]
        rintro rfl
        exact fresh (List.mem_map.2 ⟨m, hm, rfl⟩)
      rw [if_pos rfl, absent, beq_self_eq_true]
      rfl
    · rw [if_neg (fun h => same (Option.some.inj h)), beq_false_of_ne (Ne.symm same)]

/-- **The members of a record are found by their keys.** -/
theorem fields_record {members : List (String × Json)} (once : (members.map (·.1)).Nodup) (keys : List String) :
    (record members).fields keys = some (keys.map fun k => members.lookup k) := by
  have found := withKey_record once
  have texts : (members.map fun (k, v) => (some k, v)).all (fun m : Option String × Json => m.1.isSome) = true := by
    simp
  have single : keys.all (fun k => (withKey k (members.map fun (k, v) => (some k, v))).length ≤ 1) = true := by
    rw [List.all_eq_true]
    intro k _
    rw [found]
    cases members.lookup k <;> rfl
  unfold record fields
  dsimp only
  rw [texts, single]
  refine congrArg some (List.map_congr_left fun k _ => ?_)
  rw [found]
  cases members.lookup k <;> rfl

/-! ## Counts -/

theorem takeDigits_of_lt : ∀ (ds : List Digit) (n : Nat), n * 10 ^ ds.length + ofDigits ds < UInt64.size →
    takeDigits n ds = (n * 10 ^ ds.length + ofDigits ds, [])
  | [], n, _ => by simp [takeDigits, ofDigits]
  | d :: ds, n, h => by
    have more : n * 10 ^ (d :: ds).length + ofDigits (d :: ds) = (10 * n + d.val) * 10 ^ ds.length + ofDigits ds := by
      rw [ofDigits_cons, List.length_cons, Nat.pow_succ, Nat.add_mul]
      ac_rfl
    rw [more] at h ⊢
    have grows : 10 * n + d.val ≤ (10 * n + d.val) * 10 ^ ds.length :=
      Nat.le_mul_of_pos_right _ (Nat.pow_pos (by decide))
    rw [takeDigits, if_pos (Nat.lt_of_le_of_lt (Nat.le_trans grows (Nat.le_add_right _ _)) h)]
    exact takeDigits_of_lt ds _ h

theorem wordOf?_digitsOf {n : Nat} (h : n < UInt64.size) : wordOf? (digitsOf n) = some n := by
  have all := takeDigits_of_lt (digitsOf n) 0
  rw [ofDigits_digitsOf, Nat.zero_mul, Nat.zero_add] at all
  rw [wordOf?, all h]

theorem toCount?_nat (n : UInt64) : (Json.nat n.toNat).toCount? = some n := by
  show numeralToCount? _ = _
  rw [numeralToCount?, if_pos ⟨rfl, rfl, rfl⟩, wordOf?_digitsOf n.toNat_lt, Option.map_some, UInt64.ofNat_toNat]

theorem toBounded?_nat {bound n : Nat} (h : n < bound) (small : bound ≤ UInt64.size) :
    (Json.nat n).toBounded? bound = some n := by
  have fits : n < UInt64.size := Nat.lt_of_lt_of_le h small
  have count := toCount?_nat (UInt64.ofNat n)
  rw [UInt64.toNat_ofNat_of_lt' fits] at count
  rw [toBounded?, count]
  show (if (UInt64.ofNat n).toNat < bound then some (UInt64.ofNat n).toNat else none) = _
  rw [UInt64.toNat_ofNat_of_lt' fits, if_pos h]

theorem toUInt32?_nat (n : UInt32) : (Json.nat n.toNat).toUInt32? = some n := by
  rw [toUInt32?, toBounded?_nat n.toNat_lt (by decide), Option.map_some, UInt32.ofNat_toNat]

theorem toByte?_nat (n : UInt8) : (Json.nat n.toNat).toByte? = some n := by
  rw [toByte?, toBounded?_nat n.toNat_lt (by decide), Option.map_some, UInt8.ofNat_toNat]

end BenchSuite.Json
