import Mathlib.Data.List.Basic
import BenchSuite.Proofs.Crc.Burst
/-!
# Checksums of messages put together

One byte is taken in linearly in the register and the byte together (`absorb_xor`), and so is a whole message
(`foldl_absorb_xor`).  The register is full at the start and complemented at the end, which is lost in pairs and not
in threes: three messages of one length, combined byte by byte, have the combination of their checksums
(`checksum_xor`).

The four bytes of a word, the lowest first, are taken in as the bits of the word (`foldl_littleEndian`), so it is only
the exclusive or of the word and the register that matters.  A message with a word at its end has the checksum of what
tells the word from the checksum of the message (`checksum_append_littleEndian`).  Where that is nothing the message is
forgotten (`checksum_append_checksum`), and with a polynomial that loses nothing in no other case
(`checksum_append_eq_iff`).
-/
namespace BenchSuite.Crc

variable (poly : UInt32)

/-! ## Messages combined byte by byte -/

/-- Two messages of one length, combined by exclusive or. -/
def xorBytes (a b : List UInt8) : List UInt8 := List.zipWith (· ^^^ ·) a b

theorem absorb_xor (crc crc' : UInt32) (x y : UInt8) :
    absorb (table poly) (crc ^^^ crc') (x ^^^ y) = absorb (table poly) crc x ^^^ absorb (table poly) crc' y := by
  have regroup : (x ^^^ y).toUInt32 ^^^ (crc ^^^ crc') = (x.toUInt32 ^^^ crc) ^^^ (y.toUInt32 ^^^ crc') := by
    rw [UInt8.toUInt32_xor]
    ac_rfl
  rw [absorb_table, absorb_table, absorb_table, regroup, iterate_shiftOut_xor]

/-- **A message is taken in linearly**: two of one length at once, or each for itself. -/
theorem foldl_absorb_xor : ∀ {a b : List UInt8} (crc crc' : UInt32), a.length = b.length →
    (xorBytes a b).foldl (absorb (table poly)) (crc ^^^ crc')
      = a.foldl (absorb (table poly)) crc ^^^ b.foldl (absorb (table poly)) crc'
  | [], [], _, _, _ => rfl
  | x :: a, y :: b, crc, crc', same => by
    have rest : a.length = b.length := Nat.succ.inj same
    rw [xorBytes, List.zipWith_cons_cons, List.foldl_cons, absorb_xor, ← xorBytes, foldl_absorb_xor _ _ rest]
    rfl

theorem not_xor_not (x y : UInt32) : ~~~x ^^^ ~~~y = x ^^^ y := by
  rw [UInt32.not_xor, UInt32.xor_not, UInt32.not_not]

/-- **The checksum is affine**: three messages of one length, combined byte by byte, have the combination of their
checksums, for every polynomial. -/
theorem checksum_xor {a b c : List UInt8} (first : a.length = b.length) (second : b.length = c.length) :
    checksum (table poly) (xorBytes (xorBytes a b) c)
      = checksum (table poly) a ^^^ checksum (table poly) b ^^^ checksum (table poly) c := by
  have full : (0xffffffff : UInt32) = 0xffffffff ^^^ 0xffffffff ^^^ 0xffffffff := by decide
  have both : (xorBytes a b).length = c.length := by
    rw [xorBytes, List.length_zipWith, first, Nat.min_self, second]
  have registers : (xorBytes (xorBytes a b) c).foldl (absorb (table poly)) 0xffffffff
      = a.foldl (absorb (table poly)) 0xffffffff ^^^ b.foldl (absorb (table poly)) 0xffffffff
        ^^^ c.foldl (absorb (table poly)) 0xffffffff := by
    conv => lhs; rw [full]
    rw [foldl_absorb_xor poly _ _ both, foldl_absorb_xor poly _ _ first]
  -- of the three complements two cancel
  rw [checksum, checksum, checksum, checksum, registers, not_xor_not, UInt32.xor_not]

/-- Three messages of three bytes. -/
theorem checksum_xor_three_bytes : ∃ a b c : List UInt8, a = [0x61, 0x62, 0x63] ∧ b = [0x78, 0x79, 0x7a] ∧
    c = [0x00, 0xff, 0x0f] ∧ a.length = b.length ∧ b.length = c.length ∧
    checksum (table polynomial) [0x19, 0xe4, 0x16]
      = checksum (table polynomial) a ^^^ checksum (table polynomial) b ^^^ checksum (table polynomial) c := by
  refine ⟨_, _, _, rfl, rfl, rfl, rfl, rfl, ?_⟩
  have combined : xorBytes (xorBytes [0x61, 0x62, 0x63] [0x78, 0x79, 0x7a]) [0x00, 0xff, 0x0f] = [0x19, 0xe4, 0x16] := by
    decide
  rw [← combined]
  exact checksum_xor polynomial rfl rfl

/-! ## A word at the end of a message -/

/-- The four bytes of a word, the lowest first. -/
def littleEndian (w : UInt32) : List UInt8 := ([0, 8, 16, 24] : List UInt32).map fun k => (w >>> k).toUInt8

theorem littleEndian_zero : littleEndian 0 = [0, 0, 0, 0] := by
  decide

theorem bitsOf_shiftRight (w : UInt32) {k : UInt32} (h : k.toNat < 32) :
    bitsOf (w >>> k).toUInt8 = (List.range' k.toNat 8).map w.toNat.testBit := by
  rw [bitsOf, List.range'_eq_map_range, List.map_map]
  refine List.map_congr_left fun i hi => ?_
  rw [UInt32.toNat_toUInt8, Nat.testBit_mod_two_pow, decide_eq_true (List.mem_range.1 hi), Bool.true_and,
    UInt32.toNat_shiftRight, Nat.mod_eq_of_lt h, Nat.testBit_shiftRight, Function.comp_apply]

theorem sent_littleEndian (w : UInt32) : sent (littleEndian w) = (List.range 32).map w.toNat.testBit := by
  have within : ∀ k ∈ ([0, 8, 16, 24] : List UInt32), k.toNat < 32 := by simp
  have places : ([0, 8, 16, 24] : List UInt32).flatMap (fun k => List.range' k.toNat 8) = List.range 32 := by decide
  rw [sent, littleEndian, List.flatMap_map, List.flatMap_congr fun k hk => bitsOf_shiftRight w (within k hk),
    ← List.map_flatMap, places]

/-- **The bytes of a word are taken in as its bits**, by 32 shifts of the register with the word. -/
theorem foldl_littleEndian (crc w : UInt32) :
    (littleEndian w).foldl (absorb (table poly)) crc = iterate (shiftOut poly) 32 (w ^^^ crc) := by
  have gone : iterate halve 32 w = 0 := iterate_halve_eq_zero 32 w w.toNat_lt
  rw [foldl_absorb_table, sent_littleEndian, foldl_feed, iterate_absorbBit, gone, UInt32.xor_zero]

theorem checksum_littleEndian (w : UInt32) :
    checksum (table poly) (littleEndian w) = ~~~iterate (shiftOut poly) 32 (~~~w) := by
  have full : (0xffffffff : UInt32) = ~~~0 := by decide
  rw [checksum, foldl_littleEndian, full, UInt32.xor_not, UInt32.xor_zero]

/-- **A word at the end of a message** counts by what tells it from the checksum of the message. -/
theorem checksum_append_littleEndian (bytes : List UInt8) (w : UInt32) :
    checksum (table poly) (bytes ++ littleEndian w)
      = checksum (table poly) (littleEndian (w ^^^ checksum (table poly) bytes)) := by
  have register : bytes.foldl (absorb (table poly)) 0xffffffff = ~~~checksum (table poly) bytes := by
    rw [checksum, UInt32.not_not]
  rw [checksum_littleEndian, checksum, List.foldl_append, register, foldl_littleEndian, UInt32.xor_not]

/-- **A message with its checksum at the end has a fixed checksum**, that of four zero bytes, whatever the message and
the polynomial. -/
theorem checksum_append_checksum (bytes : List UInt8) :
    checksum (table poly) (bytes ++ littleEndian (checksum (table poly) bytes)) = checksum (table poly) [0, 0, 0, 0] := by
  rw [checksum_append_littleEndian, UInt32.xor_self, littleEndian_zero]

example : checksum (table polynomial) [0, 0, 0, 0] = 0x2144df1c := by
  rw [← littleEndian_zero, checksum_littleEndian]
  decide +kernel

/-- With a polynomial whose highest bit is set, no other word at the end has that checksum. -/
theorem checksum_append_eq_iff {poly : UInt32} (top : poly.toNat.testBit 31 = true) (bytes : List UInt8) (w : UInt32) :
    checksum (table poly) (bytes ++ littleEndian w) = checksum (table poly) [0, 0, 0, 0] ↔
      w = checksum (table poly) bytes := by
  rw [checksum_append_littleEndian, ← littleEndian_zero, checksum_littleEndian, checksum_littleEndian, UInt32.not_inj]
  constructor
  · intro same
    exact UInt32.xor_eq_zero_iff.1 (UInt32.not_inj.1 (iterate_shiftOut_inj top 32 same))
  · rintro rfl
    rw [UInt32.xor_self]

end BenchSuite.Crc
