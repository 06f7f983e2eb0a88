import Mathlib.Data.Nat.Nth
import Mathlib.Data.Nat.NthRoot.Defs
import Mathlib.Data.Nat.Prime.Basic
import Mathlib.Tactic.IntervalCases
import BenchSuite.Kernel.Sha256
/-!
# Compression as the standard has it

FIPS 180-4 gives the functions of a round bit by bit, the schedule as a recurrence, and the constants as cube roots of
primes (`Standard`).  Each of them is what the digest computes: its functions (`choose_eq`, `majority_eq`), its table
(`getElem_roundConstants`), its schedule (`getElem_scheduleUpTo`), and so one round (`round_eq`) and all of them
(`rounds_eq`).
-/
namespace BenchSuite.Sha256

namespace Standard

def rotr (n : Nat) (x : UInt32) : UInt32 := ⟨x.toBitVec.rotateRight n⟩

def shr (n : Nat) (x : UInt32) : UInt32 := ⟨x.toBitVec >>> n⟩

def ch (x y z : UInt32) : UInt32 := (x &&& y) ^^^ (~~~x &&& z)

def maj (x y z : UInt32) : UInt32 := (x &&& y) ^^^ (x &&& z) ^^^ (y &&& z)

def bigSum0 (x : UInt32) : UInt32 := rotr 2 x ^^^ rotr 13 x ^^^ rotr 22 x

def bigSum1 (x : UInt32) : UInt32 := rotr 6 x ^^^ rotr 11 x ^^^ rotr 25 x

def sum0 (x : UInt32) : UInt32 := rotr 7 x ^^^ rotr 18 x ^^^ shr 3 x

def sum1 (x : UInt32) : UInt32 := rotr 17 x ^^^ rotr 19 x ^^^ shr 10 x

/-- The first 32 bits of the fractional part of a number's cube root. -/
def cubeRootBits (p : Nat) : UInt32 := .ofNat (Nat.nthRoot 3 (p * 2 ^ 96))

noncomputable def constant (t : Nat) : UInt32 := cubeRootBits (Nat.nth Nat.Prime t)

/-- **The words of the schedule**: those of the block, read from the highest byte, and then each from four before it. -/
def word (block : Block) (t : Nat) : UInt32 :=
  if t < 16 then .ofNat (((block.toList.drop (4 * t)).take 4).foldl (fun n byte => 256 * n + byte.toNat) 0)
  else sum1 (word block (t - 2)) + word block (t - 7) + sum0 (word block (t - 15)) + word block (t - 16)

structure Variables where
  (a b c d e f g h : UInt32)

/-- The variables in the registers that they come from. -/
def Variables.registers (v : Variables) : Registers := #v[v.a, v.b, v.c, v.d, v.e, v.f, v.g, v.h]

/-- **One round** with its constant and its word. -/
def Variables.next (v : Variables) (k w : UInt32) : Variables :=
  let t1 := v.h + bigSum1 v.e + ch v.e v.f v.g + k + w
  let t2 := bigSum0 v.a + maj v.a v.b v.c
  { a := t1 + t2, b := v.a, c := v.b, d := v.c, e := v.d + t1, f := v.e, g := v.f, h := v.g }

noncomputable def after (r : Registers) (block : Block) : Nat → Variables
  | 0 => ⟨r[0], r[1], r[2], r[3], r[4], r[5], r[6], r[7]⟩
  | t + 1 => (after r block t).next (constant t) (word block t)

/-- **The registers after a block.** -/
noncomputable def compress (r : Registers) (block : Block) : Registers :=
  (after r block 64).registers.zipWith (· + ·) r

end Standard

open Standard

/-! ## Functions of a round -/

theorem choose_eq (x y z : UInt32) : choose x y z = ch x y z := by
  apply UInt32.eq_of_toBitVec_eq
  ext i hi
  simp only [choose, ch, UInt32.toBitVec_xor, UInt32.toBitVec_and, UInt32.toBitVec_not, BitVec.getElem_xor,
    BitVec.getElem_and, BitVec.getElem_not]
  cases x.toBitVec[i] <;> cases y.toBitVec[i] <;> simp

theorem majority_eq (x y z : UInt32) : majority x y z = maj x y z := by
  apply UInt32.eq_of_toBitVec_eq
  ext i hi
  simp only [majority, maj, UInt32.toBitVec_xor, UInt32.toBitVec_and, UInt32.toBitVec_or, BitVec.getElem_xor,
    BitVec.getElem_and, BitVec.getElem_or]
  cases x.toBitVec[i] <;> cases y.toBitVec[i] <;> simp

theorem bigSigma0_eq (x : UInt32) : bigSigma0 x = bigSum0 x := rfl

theorem bigSigma1_eq (x : UInt32) : bigSigma1 x = bigSum1 x := rfl

theorem smallSigma0_eq (x : UInt32) : smallSigma0 x = sum0 x := rfl

theorem smallSigma1_eq (x : UInt32) : smallSigma1 x = sum1 x := rfl

theorem round_eq (r : Registers) (v : Variables) (h : r = v.registers) (k w : UInt32) :
    round r k w = (v.next k w).registers := by
  subst h
  simp only [round, choose_eq, majority_eq, bigSigma0_eq, bigSigma1_eq]
  rfl

/-! ## Constants -/

theorem filter_range_eq_map_nth (p : Nat → Prop) [DecidablePred p] (n : Nat) :
    (List.range n).filter p = (List.range (Nat.count p n)).map (Nat.nth p) := by
  induction n with
  | zero => simp
  | succ n ih =>
    rw [List.range_succ, List.filter_append, ih, Nat.count_succ]
    by_cases hp : p n
    · simp [hp, List.range_succ, Nat.nth_count hp]
    · simp [hp]

theorem prime_iff_of_lt {p : Nat} (h : p < 18 ^ 2) :
    p.Prime ↔ 2 ≤ p ∧ ∀ d < 18, d ∣ p → d = 1 ∨ d = p := by
  constructor
  · intro hp
    exact ⟨hp.two_le, fun d _ hd => hp.eq_one_or_self_of_dvd d hd⟩
  · rintro ⟨two, small⟩
    refine Nat.prime_def_le_sqrt.2 ⟨two, fun m hm root hd => ?_⟩
    have := Nat.sqrt_lt_self two
    have := small m (Nat.lt_of_le_of_lt root (Nat.sqrt_lt'.2 h)) hd
    omega

/-- The primes below 312 are as many as the constants. -/
theorem map_cubeRootBits : ((List.range 312).filter Nat.Prime).map cubeRootBits = roundConstants.toList := by
  have tested : (List.range 312).filter (fun p => decide p.Prime) =
      (List.range 312).filter fun p => decide (2 ≤ p ∧ ∀ d < 18, d ∣ p → d = 1 ∨ d = p) := by
    refine List.filter_congr fun p hp => ?_
    have := List.mem_range.1 hp
    simp only [prime_iff_of_lt (show p < 18 ^ 2 by omega)]
  rw [tested]
  decide +kernel

theorem roundConstants_eq : roundConstants.toList = (List.range 64).map constant := by
  have table := map_cubeRootBits
  rw [filter_range_eq_map_nth, List.map_map] at table
  have count : Nat.count Nat.Prime 312 = 64 := by simpa using congrArg List.length table
  rw [← table, count]
  rfl

theorem getElem_roundConstants (t : Nat) (h : t < 64) : roundConstants[t] = constant t := by
  rw [← Vector.getElem_toList (by simpa using h)]
  simp only [roundConstants_eq, List.getElem_map, List.getElem_range]

/-! ## The schedule -/

theorem toNat_shiftLeft_byte (x : UInt8) {k : Nat} (h : k ≤ 24) :
    (x.toUInt32 <<< UInt32.ofNat k).toNat = x.toNat <<< k := by
  have small : x.toNat <<< k < 2 ^ 32 := by
    rw [Nat.shiftLeft_eq]
    calc x.toNat * 2 ^ k
      _ < 2 ^ 8 * 2 ^ k := Nat.mul_lt_mul_of_pos_right x.toNat_lt (Nat.two_pow_pos k)
      _ ≤ 2 ^ 8 * 2 ^ 24 := Nat.mul_le_mul_left _ (Nat.pow_le_pow_right (by decide) h)
  rw [UInt32.toNat_shiftLeft, UInt32.toNat_ofNat_of_lt' (Nat.lt_of_le_of_lt h (by decide)), UInt8.toNat_toUInt32,
    Nat.mod_eq_of_lt (show k < 32 by omega), Nat.mod_eq_of_lt small]

theorem shiftLeft_or_byte (x : Nat) (y : UInt8) : x <<< 8 ||| y.toNat = 256 * x + y.toNat := by
  rw [← Nat.shiftLeft_add_eq_or_of_lt y.toNat_lt, Nat.shiftLeft_eq, Nat.mul_comm]

theorem toNat_wordOfBytes (a b c d : UInt8) :
    (wordOfBytes a b c d).toNat = [a, b, c, d].foldl (fun n byte => 256 * n + byte.toNat) 0 := by
  have joined : (wordOfBytes a b c d).toNat =
      ((a.toNat <<< 8 ||| b.toNat) <<< 8 ||| c.toNat) <<< 8 ||| d.toNat := by
    simp only [Nat.shiftLeft_or_distrib, ← Nat.shiftLeft_add]
    simp only [wordOfBytes, UInt32.toNat_or, UInt8.toNat_toUInt32]
    rw [← toNat_shiftLeft_byte a (k := 24) (by decide), ← toNat_shiftLeft_byte b (k := 16) (by decide),
      ← toNat_shiftLeft_byte c (k := 8) (by decide)]
    rfl
  simp only [joined, shiftLeft_or_byte, List.foldl_cons, List.foldl_nil, Nat.mul_zero, Nat.zero_add]

theorem blockWord_eq (block : Block) (t : Nat) (h : t < 16) : blockWord block t h = word block t := by
  have bytes : (block.toList.drop (4 * t)).take 4 =
      [block[4 * t], block[4 * t + 1], block[4 * t + 2], block[4 * t + 3]] := by
    apply List.ext_getElem
    · simp
      omega
    · intro i hi _
      have small : i < 4 := Nat.lt_of_lt_of_le hi (List.length_take_le 4 _)
      interval_cases i <;> simp
  rw [word, if_pos h, bytes, ← toNat_wordOfBytes, UInt32.ofNat_toNat, blockWord]

theorem getElem_scheduleUpTo (block : Block) : ∀ n t (h : t < n), (scheduleUpTo block n)[t] = word block t
  | n + 1, t, h => by
    by_cases old : t < n
    · have kept : (scheduleUpTo block (n + 1))[t] = (scheduleUpTo block n)[t] := Vector.getElem_push_lt old
      rw [kept, getElem_scheduleUpTo block n t old]
    · obtain rfl : t = n := by omega
      let w := scheduleUpTo block t
      have pushed : (scheduleUpTo block (t + 1))[t] = if h : t < 16 then blockWord block t h
          else smallSigma1 w[t - 2] + w[t - 7] + smallSigma0 w[t - 15] + w[t - 16] := Vector.getElem_push_eq
      by_cases first : t < 16
      · rw [pushed, dif_pos first, blockWord_eq]
      · conv_rhs => rw [word, if_neg first]
        simp only [pushed, w, first, dite_false, getElem_scheduleUpTo block t, smallSigma0_eq, smallSigma1_eq]

/-! ## The rounds -/

theorem foldl_eq_of_steps {α β : Type} {f : β → α → β} {s : Nat → β} : ∀ (l : List α) (i : Nat),
    (∀ t (h : t < l.length), s (i + t + 1) = f (s (i + t)) l[t]) → l.foldl f (s i) = s (i + l.length)
  | [], _, _ => rfl
  | x :: l, i, step => by
    have first : s (i + 1) = f (s i) x := step 0 (by simp)
    have rest := foldl_eq_of_steps l (i + 1) fun t h => by
      have next := step (t + 1) (by simpa using h)
      rwa [← Nat.add_assoc, Nat.add_right_comm i t 1] at next
    rw [List.foldl_cons, ← first, rest, List.length_cons, Nat.add_assoc, Nat.add_comm 1]

theorem rounds_eq (r : Registers) (block : Block) :
    rounds r (scheduleUpTo block 64) = (after r block 64).registers := by
  have start : r = (after r block 0).registers := by
    apply Vector.ext
    intro i hi
    interval_cases i <;> rfl
  have run := foldl_eq_of_steps (s := fun t => (after r block t).registers)
    (f := fun r (kw : UInt32 × UInt32) => round r kw.1 kw.2) (roundConstants.zip (scheduleUpTo block 64)).toList 0
    fun t h => by
      rw [Vector.length_toList] at h
      simp only [Vector.getElem_toList, Vector.getElem_zip, getElem_roundConstants t h, getElem_scheduleUpTo block 64 t h,
        round_eq _ _ rfl, Nat.zero_add]
      rfl
  rw [← start, Vector.length_toList] at run
  rw [rounds, ← Vector.foldl_toList]
  exact run

/-- **Compression is the standard's**, for all registers and all blocks. -/
theorem compress_standard (r : Registers) (block : Block) :
    Sha256.compress r block = Standard.compress r block := by
  rw [Sha256.compress, rounds_eq, Standard.compress]
  apply Vector.ext
  intro i hi
  rw [Vector.getElem_zipWith, Vector.getElem_zipWith, UInt32.add_comm]

end BenchSuite.Sha256
