import Mathlib.Algebra.Group.Nat.Defs
import BenchSuite.Kernel.Sha256
import Mathlib.Data.List.OfFn
import Mathlib.Order.Bounds.Defs
/-!
# The padded message

A message is padded as a whole, cut into blocks, and the blocks are compressed one after the other
(`wholeDigest`).  The blocks of a list of blocks are these blocks again (`cut_flatMap`), and the bytes
of a number that is shifted are its digits to the base 256 (`toList_putLength`, `toList_bytesOfRegisters`).
-/
namespace BenchSuite.Sha256

/-- The last `k` digits of a number to the base 256, the highest first. -/
def bigEndian : Nat → Nat → List UInt8
  | 0, _ => []
  | k + 1, n => UInt8.ofNat (n / 256 ^ k) :: bigEndian k n

/-- How many zeros stand between the mark and the length of a message of `n` bytes. -/
def zeros (n : Nat) : Nat := (119 - n % 64) % 64

/-- **The padded message**: a one bit, zeros, and the length in bits modulo `2 ^ 64`. -/
def padded (m : List UInt8) : List UInt8 :=
  m ++ [0x80] ++ List.replicate (zeros m.length) 0 ++ bigEndian 8 (8 * m.length % 2 ^ 64)

def blockOf (bytes : List UInt8) : Block := Vector.ofFn fun i => bytes.getD i 0

def blocksIn : Nat → List UInt8 → List Block
  | 0, _ => []
  | n + 1, bytes => blockOf (bytes.take 64) :: blocksIn n (bytes.drop 64)

/-- The bytes cut into blocks. -/
def cut (bytes : List UInt8) : List Block := blocksIn (bytes.length / 64) bytes

/-- **The digest of a message that is padded as a whole.** -/
def wholeDigest (m : List UInt8) : List UInt8 :=
  ((cut (padded m)).foldl compress initialRegisters).toList.flatMap fun w => bigEndian 4 w.toNat

/-! ## Zeros -/

/-- **The zeros are as few as fill up a block.** -/
theorem isLeast_zeros (n : Nat) : IsLeast {z | 64 ∣ n + 1 + z + 8} (zeros n) := by
  constructor
  · show 64 ∣ n + 1 + zeros n + 8
    unfold zeros
    omega
  · intro z hz
    have hz : 64 ∣ n + 1 + z + 8 := hz
    unfold zeros
    omega

/-! ## Blocks -/

theorem blockOf_toList (b : Block) : blockOf b.toList = b := by
  apply Vector.ext
  intro i hi
  rw [blockOf, Vector.getElem_ofFn, List.getD_eq_getElem?_getD,
    List.getElem?_eq_getElem (by simpa using hi), Option.getD_some, Vector.getElem_toList]

theorem length_flatMap_blocks : ∀ bs : List Block, (bs.flatMap Vector.toList).length = 64 * bs.length
  | [] => rfl
  | b :: bs => by
    rw [List.flatMap_cons, List.length_append, length_flatMap_blocks bs, Vector.length_toList,
      List.length_cons]
    omega

theorem blocksIn_flatMap : ∀ bs : List Block, blocksIn bs.length (bs.flatMap Vector.toList) = bs
  | [] => rfl
  | b :: bs => by
    have hb : b.toList.length = 64 := Vector.length_toList
    rw [List.length_cons, List.flatMap_cons, blocksIn, List.take_left' hb, List.drop_left' hb,
      blockOf_toList, blocksIn_flatMap bs]

theorem cut_flatMap (bs : List Block) : cut (bs.flatMap Vector.toList) = bs := by
  rw [cut, length_flatMap_blocks, Nat.mul_div_cancel_left _ (by decide), blocksIn_flatMap]

/-! ## Bytes of words -/

theorem length_bigEndian (n : Nat) : ∀ k, (bigEndian k n).length = k
  | 0 => rfl
  | k + 1 => by rw [bigEndian, List.length_cons, length_bigEndian n k]

theorem toUInt8_shiftRight_word (w : UInt32) {k : Nat} (hk : k < 4) :
    (w >>> UInt32.ofNat (8 * k)).toUInt8 = UInt8.ofNat (w.toNat / 256 ^ k) := by
  apply UInt8.toNat_inj.1
  have hs : (UInt32.ofNat (8 * k)).toNat = 8 * k := UInt32.toNat_ofNat_of_lt (by show 8 * k < 2 ^ 32; omega)
  rw [UInt32.toNat_toUInt8, UInt32.toNat_shiftRight, hs, Nat.mod_eq_of_lt (show 8 * k < 32 by omega),
    Nat.shiftRight_eq_div_pow, Nat.pow_mul, UInt8.toNat_ofNat']

theorem toUInt8_shiftRight_length (w : UInt64) {k : Nat} (hk : k < 8) :
    (w >>> UInt64.ofNat (8 * k)).toUInt8 = UInt8.ofNat (w.toNat / 256 ^ k) := by
  apply UInt8.toNat_inj.1
  have hs : (UInt64.ofNat (8 * k)).toNat = 8 * k := UInt64.toNat_ofNat_of_lt (by show 8 * k < 2 ^ 64; omega)
  rw [UInt64.toNat_toUInt8, UInt64.toNat_shiftRight, hs, Nat.mod_eq_of_lt (show 8 * k < 64 by omega),
    Nat.shiftRight_eq_div_pow, Nat.pow_mul, UInt8.toNat_ofNat']

theorem bigEndian_eq_ofFn (n : Nat) : ∀ k,
    bigEndian k n = List.ofFn fun i : Fin k => UInt8.ofNat (n / 256 ^ (k - 1 - i.val))
  | 0 => rfl
  | k + 1 => by
    rw [bigEndian, List.ofFn_succ, bigEndian_eq_ofFn n k]
    congr 1
    congr 1
    funext i
    rw [Fin.val_succ, show k + 1 - 1 - (i.val + 1) = k - 1 - i.val by omega]

theorem toList_eq_ofFn {α : Type} {n : Nat} (v : Vector α n) : v.toList = List.ofFn v.get := by
  rw [← Vector.toList_ofFn]
  congr 1
  apply Vector.ext
  intro i hi
  rw [Vector.getElem_ofFn]
  rfl

/-- **The bytes of the registers**, each word from its highest byte. -/
theorem toList_bytesOfRegisters (r : Registers) :
    (DigestState.bytesOfRegisters r).toList = r.toList.flatMap fun w => bigEndian 4 w.toNat := by
  rw [DigestState.bytesOfRegisters, Vector.toList_ofFn, toList_eq_ofFn r, List.flatMap_def, List.map_ofFn]
  refine (List.ofFn_mul (m := 8) (n := 4) _).trans ?_
  congr 2
  funext i
  rw [Function.comp_apply, bigEndian_eq_ofFn]
  congr 1
  funext j
  have hi : (i.val * 4 + j.val) / 4 = i.val := by omega
  have hj : 3 - (i.val * 4 + j.val) % 4 = 3 - j.val := by omega
  simp only [hi, hj]
  exact toUInt8_shiftRight_word (r.get i) (by omega)

theorem toList_putLength (block : Block) (bits : UInt64) :
    (putLength block bits).toList = block.toList.take lengthOffset ++ bigEndian 8 bits.toNat := by
  rw [putLength, Vector.toList_ofFn]
  refine (List.ofFn_add (n := 56) (m := 8)).trans ?_
  congr 1
  · apply List.ext_getElem
    · rw [List.length_ofFn, List.length_take, Vector.length_toList]
      rfl
    · intro i h1 h2
      rw [List.length_ofFn] at h1
      rw [List.getElem_ofFn, List.getElem_take, Vector.getElem_toList]
      exact if_pos h1
  · rw [bigEndian_eq_ofFn]
    congr 1
    funext i
    have hi : ¬ 56 + i.val < 56 := by omega
    simp only [Fin.val_natAdd, hi, if_false, Nat.add_sub_cancel_left, lengthByte]
    exact toUInt8_shiftRight_length bits (by omega)

end BenchSuite.Sha256
