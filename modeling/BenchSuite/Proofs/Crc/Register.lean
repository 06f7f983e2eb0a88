import BenchSuite.Kernel.Crc
/-!
# The checksum, bit by bit

The checksum looks up eight shifts of the register at once.  A shift is linear in exclusive or
(`shiftOut_xor`), so what the low byte brings in and what the rest of the register becomes can be told
apart (`shifts_eight`), and one look-up is the eight shifts of the byte on the register (`absorb_table`).
From there the checksum of a whole message is the one that takes in bit after bit
(`checksum_eq_bitSerial`).
-/
namespace BenchSuite.Crc

/-! ## One shift -/

/-- The register moved down by one place; the polynomial goes in when the bit that fell out was a one. -/
def shiftOut (poly crc : UInt32) : UInt32 :=
  if crc &&& 1 = 1 then (crc >>> 1) ^^^ poly else crc >>> 1

/-- One bit of the message taken into the register. -/
def feed (poly crc : UInt32) (bit : Bool) : UInt32 :=
  shiftOut poly (crc ^^^ (if bit then 1 else 0))

/-- The bits of a byte, the lowest first. -/
def bitsOf (b : UInt8) : List Bool := (List.range 8).map b.toNat.testBit

/-- **The checksum that takes in bit after bit**, each byte from its lowest. -/
def bitSerial (poly : UInt32) (bytes : List UInt8) : UInt32 :=
  ~~~(bytes.flatMap bitsOf).foldl (feed poly) 0xffffffff

theorem xor_xor_cancel_left (x y : UInt32) : x ^^^ (x ^^^ y) = y := by
  rw [← UInt32.xor_assoc, UInt32.xor_self, UInt32.zero_xor]

theorem xor_xor_cancel_right (x y : UInt32) : (x ^^^ y) ^^^ y = x := by
  rw [UInt32.xor_assoc, UInt32.xor_self, UInt32.xor_zero]

theorem low_bit (x : UInt32) : x &&& 1 = if x.toNat.testBit 0 then 1 else 0 := by
  apply UInt32.toNat_inj.1
  rw [UInt32.toNat_and, UInt32.toNat_one, Nat.and_one_is_mod, Nat.testBit_zero]
  rcases Nat.mod_two_eq_zero_or_one x.toNat with h | h <;> simp [h]

theorem shiftOut_eq (poly x : UInt32) :
    shiftOut poly x = (x >>> 1) ^^^ (if x.toNat.testBit 0 then poly else 0) := by
  unfold shiftOut
  rw [low_bit]
  cases x.toNat.testBit 0 <;> simp

/-- **A shift is linear in exclusive or.** -/
theorem shiftOut_xor (poly x y : UInt32) : shiftOut poly (x ^^^ y) = shiftOut poly x ^^^ shiftOut poly y := by
  have hs : (x ^^^ y) >>> 1 = (x >>> 1) ^^^ (y >>> 1) := UInt32.shiftRight_xor
  rw [shiftOut_eq, shiftOut_eq, shiftOut_eq, hs, UInt32.toNat_xor, Nat.testBit_xor]
  generalize x >>> 1 = a
  generalize y >>> 1 = b
  cases x.toNat.testBit 0 <;> cases y.toNat.testBit 0 <;>
    simp only [Bool.xor_false, Bool.xor_true, Bool.not_false, Bool.not_true, if_true,
      Bool.false_eq_true, if_false, UInt32.xor_zero]
  · ac_rfl
  · ac_rfl
  · rw [UInt32.xor_assoc, UInt32.xor_comm b, xor_xor_cancel_left]

theorem shiftOut_of_even (poly : UInt32) {x : UInt32} (h : x.toNat.testBit 0 = false) :
    shiftOut poly x = x >>> 1 := by
  rw [shiftOut_eq, h]
  simp

/-! ## Several shifts -/

def halve (x : UInt32) : UInt32 := x >>> 1

theorem toNat_halve (x : UInt32) : (halve x).toNat = x.toNat >>> 1 := by
  rw [halve, UInt32.toNat_shiftRight, UInt32.toNat_one]

theorem iterate_shiftOut_xor (poly : UInt32) : ∀ (n : Nat) (x y : UInt32),
    iterate (shiftOut poly) n (x ^^^ y) = iterate (shiftOut poly) n x ^^^ iterate (shiftOut poly) n y
  | 0, _, _ => rfl
  | n + 1, x, y => by
    simp only [iterate, shiftOut_xor]
    exact iterate_shiftOut_xor poly n _ _

theorem iterate_shiftOut_of_clear (poly : UInt32) : ∀ (n : Nat) (x : UInt32),
    (∀ i < n, x.toNat.testBit i = false) → iterate (shiftOut poly) n x = iterate halve n x
  | 0, _, _ => rfl
  | n + 1, x, h => by
    simp only [iterate]
    rw [shiftOut_of_even poly (h 0 (by omega))]
    refine iterate_shiftOut_of_clear poly n (halve x) (fun i hi => ?_)
    rw [toNat_halve, Nat.testBit_shiftRight, Nat.add_comm]
    exact h (i + 1) (by omega)

theorem iterate_halve_eight (x : UInt32) : iterate halve 8 x = x >>> 8 := by
  apply UInt32.toNat_inj.1
  simp only [iterate, toNat_halve, UInt32.toNat_shiftRight, ← Nat.shiftRight_add]
  rfl

theorem byte_shiftRight_eight (b : UInt8) : b.toUInt32 >>> 8 = 0 := by
  apply UInt32.toNat_inj.1
  rw [UInt32.toNat_shiftRight, UInt8.toNat_toUInt32]
  exact Nat.shiftRight_eq_zero _ _ b.toNat_lt

theorem testBit_low_byte (x : UInt32) {i : Nat} (hi : i < 8) :
    (x &&& 0xff).toNat.testBit i = x.toNat.testBit i := by
  have h255 : (255 : Nat).testBit i = true := by
    rw [show (255 : Nat) = 2 ^ 8 - 1 from rfl, Nat.testBit_two_pow_sub_one, decide_eq_true hi]
  rw [UInt32.toNat_and, Nat.testBit_and, show (0xff : UInt32).toNat = 255 from rfl, h255, Bool.and_true]

/-- **Eight shifts** take the low byte with the polynomial and only move the rest. -/
theorem shifts_eight (poly x : UInt32) :
    iterate (shiftOut poly) 8 x = iterate (shiftOut poly) 8 (x &&& 0xff) ^^^ (x >>> 8) := by
  have split : x = (x &&& 0xff) ^^^ (x ^^^ (x &&& 0xff)) := by
    rw [UInt32.xor_comm x, xor_xor_cancel_left]
  have clear : ∀ i < 8, (x ^^^ (x &&& 0xff)).toNat.testBit i = false := fun i hi => by
    rw [UInt32.toNat_xor, Nat.testBit_xor, testBit_low_byte x hi, Bool.xor_self]
  have high : (x ^^^ (x &&& 0xff)) >>> 8 = x >>> 8 := by
    rw [UInt32.shiftRight_xor, UInt32.shiftRight_and, show (0xff : UInt32) >>> 8 = 0 from rfl,
      UInt32.and_zero, UInt32.xor_zero]
  conv => lhs; rw [split]
  rw [iterate_shiftOut_xor, iterate_shiftOut_of_clear poly 8 _ clear, iterate_halve_eight, high]

/-! ## One byte: the table's loop and the bits

Both take the bits of a word into the register one at a time, so both keep
`register ^^^ what is left of the word` equal to the shifts of `register ^^^ word`. -/

theorem testBit_zero_xor (x y : UInt32) :
    ((x ^^^ y) &&& 1 ≠ 0) ↔ (x ^^^ y).toNat.testBit 0 = true := by
  rw [low_bit]
  cases (x ^^^ y).toNat.testBit 0 <;> simp

theorem absorbBit_eq (poly byte crc : UInt32) :
    absorbBit poly (byte, crc) = (halve byte, shiftOut poly (byte ^^^ crc) ^^^ halve byte) := by
  have hs : (byte ^^^ crc) >>> 1 = (byte >>> 1) ^^^ (crc >>> 1) := UInt32.shiftRight_xor
  simp only [absorbBit, testBit_zero_xor, shiftOut_eq, hs, halve, Prod.mk.injEq, true_and]
  generalize byte >>> 1 = a
  generalize crc >>> 1 = c
  cases (byte ^^^ crc).toNat.testBit 0 <;>
    simp only [if_true, Bool.false_eq_true, if_false, UInt32.xor_zero]
  · rw [UInt32.xor_comm a, xor_xor_cancel_right]
  · rw [UInt32.xor_comm a, UInt32.xor_assoc c, UInt32.xor_comm a, ← UInt32.xor_assoc, xor_xor_cancel_right]

theorem iterate_absorbBit (poly : UInt32) : ∀ (n : Nat) (byte crc : UInt32),
    iterate (absorbBit poly) n (byte, crc)
      = (iterate halve n byte, iterate (shiftOut poly) n (byte ^^^ crc) ^^^ iterate halve n byte)
  | 0, byte, crc => by
    simp only [iterate]
    rw [UInt32.xor_comm byte, xor_xor_cancel_right]
  | n + 1, byte, crc => by
    have hx : halve byte ^^^ (shiftOut poly (byte ^^^ crc) ^^^ halve byte) = shiftOut poly (byte ^^^ crc) := by
      rw [UInt32.xor_comm (halve byte), xor_xor_cancel_right]
    simp only [iterate]
    rw [absorbBit_eq, iterate_absorbBit poly n, hx]

theorem entry_eq (poly : UInt32) {byte : UInt32} (h : byte >>> 8 = 0) :
    entry poly byte = iterate (shiftOut poly) 8 byte := by
  rw [entry, iterate_absorbBit, iterate_halve_eight, h, UInt32.xor_zero, UInt32.xor_zero]

theorem get_table (poly : UInt32) (i : Nat) (h : i < 256) :
    (table poly).get ⟨i, h⟩ = entry poly (UInt32.ofNat i) := by
  show (table poly)[i] = _
  exact Vector.getElem_ofFn h

theorem absorb_table (poly crc : UInt32) (b : UInt8) :
    absorb (table poly) crc b = iterate (shiftOut poly) 8 (b.toUInt32 ^^^ crc) := by
  have index : UInt32.ofNat ((b.toUInt32 ^^^ crc) &&& 0xff).toNat = (b.toUInt32 ^^^ crc) &&& 0xff :=
    UInt32.ofNat_toNat
  have small : ((b.toUInt32 ^^^ crc) &&& 0xff) >>> 8 = 0 := by
    rw [UInt32.shiftRight_and, show (0xff : UInt32) >>> 8 = 0 from rfl, UInt32.and_zero]
  have rest : (b.toUInt32 ^^^ crc) >>> 8 = crc >>> 8 := by
    rw [UInt32.shiftRight_xor, byte_shiftRight_eight, UInt32.zero_xor]
  rw [absorb, get_table, index, entry_eq poly small, shifts_eight poly (b.toUInt32 ^^^ crc), rest]

theorem feed_eq (poly byte crc : UInt32) :
    feed poly crc (byte.toNat.testBit 0) = (absorbBit poly (byte, crc)).2 := by
  have rest : shiftOut poly (byte ^^^ (byte &&& 1)) = halve byte := by
    have even : (byte ^^^ (byte &&& 1)).toNat.testBit 0 = false := by
      rw [low_bit, UInt32.toNat_xor, Nat.testBit_xor]
      cases byte.toNat.testBit 0 <;> rfl
    rw [shiftOut_of_even poly even, UInt32.shiftRight_xor, UInt32.shiftRight_and,
      show (1 : UInt32) >>> 1 = 0 from rfl, UInt32.and_zero, UInt32.xor_zero, halve]
  have join : byte ^^^ crc = (crc ^^^ (byte &&& 1)) ^^^ (byte ^^^ (byte &&& 1)) := by
    rw [UInt32.xor_assoc crc, UInt32.xor_comm byte (byte &&& 1), xor_xor_cancel_left, UInt32.xor_comm]
  rw [absorbBit_eq, feed, ← low_bit, join, shiftOut_xor poly (crc ^^^ _), rest, xor_xor_cancel_right]

theorem foldl_feed (poly : UInt32) : ∀ (n : Nat) (byte crc : UInt32),
    ((List.range n).map byte.toNat.testBit).foldl (feed poly) crc
      = (iterate (absorbBit poly) n (byte, crc)).2
  | 0, _, _ => rfl
  | n + 1, byte, crc => by
    have later : (byte.toNat.testBit ∘ Nat.succ) = (halve byte).toNat.testBit := by
      funext i
      rw [Function.comp_apply, toNat_halve, Nat.testBit_shiftRight, Nat.add_comm, Nat.succ_eq_add_one]
    rw [List.range_succ_eq_map, List.map_cons, List.foldl_cons, List.map_map, later, feed_eq,
      foldl_feed poly n, iterate, absorbBit_eq]

/-- **The eight bits of a byte are its eight shifts on the register.** -/
theorem foldl_bitsOf (poly crc : UInt32) (b : UInt8) :
    (bitsOf b).foldl (feed poly) crc = iterate (shiftOut poly) 8 (b.toUInt32 ^^^ crc) := by
  rw [bitsOf, ← UInt8.toNat_toUInt32, foldl_feed, iterate_absorbBit, iterate_halve_eight,
    byte_shiftRight_eight, UInt32.xor_zero]

/-! ## Whole messages -/

/-- **The checksum from the table is the one that takes in bit after bit**, for every polynomial. -/
theorem checksum_eq_bitSerial (poly : UInt32) (bytes : List UInt8) :
    checksum (table poly) bytes = bitSerial poly bytes := by
  have step : absorb (table poly) = fun crc b => (bitsOf b).foldl (feed poly) crc := by
    funext crc b
    rw [absorb_table, foldl_bitsOf]
  rw [checksum, bitSerial, List.foldl_flatMap, step]

end BenchSuite.Crc
