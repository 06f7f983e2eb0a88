import Mathlib.Algebra.Order.Floor.Div
import Mathlib.GroupTheory.GroupAction.Ring
import BenchSuite.Proofs.Sha256.Streaming
/-!
# Messages told from their blocks

The blocks of a message, joined, are the padded message (`flatMap_cut`), whose last eight bytes tell its length
(`bigEndian_inj`) and so where the padding begins: two messages that are padded to the same bytes are the same
(`padded_inj`).
-/
namespace BenchSuite.Sha256

open Intake (Took)

/-- A message goes to whatever takes blocks as the blocks of the padded message. -/
theorem run_eq {σ : Type} (step : σ → Block → σ) (init : σ) (m : List UInt8) :
    ((Intake.start init).take step m >>= fun s => s.finish step) = .ok ((cut (padded m)).foldl step init) := by
  obtain ⟨s, taken, took⟩ := Intake.take_start step init m
  rw [taken]
  exact finish_took took

theorem blocksOf_eq (m : List UInt8) : blocksOf m = .ok (cut (padded m)) := by
  have kept := run_eq (fun (blocks : List Block) block => blocks ++ [block]) [] m
  rw [List.foldl_append_eq_append, List.nil_append, ← List.flatMap_def, List.flatMap_singleton'] at kept
  exact kept

theorem flatMap_cut (m : List UInt8) : (cut (padded m)).flatMap Vector.toList = padded m := by
  obtain ⟨s, -, blocks, rest, held⟩ := Intake.take_start (fun _ _ => ()) () m
  obtain ⟨last, -, joined⟩ := Intake.lastBlocks_holds held
  rw [padded_split held.split joined, cut_flatMap]

theorem length_padded (m : List UInt8) : (padded m).length = m.length + 9 + zeros m.length := by
  simp only [padded, List.length_append, List.length_singleton, List.length_replicate, length_bigEndian]
  omega

theorem length_cut (m : List UInt8) : (cut (padded m)).length = (m.length + 9) ⌈/⌉ 64 := by
  have len := congrArg List.length (flatMap_cut m)
  rw [length_flatMap_blocks, length_padded, zeros] at len
  rw [Nat.ceilDiv_eq_add_pred_div]
  omega

theorem bigEndian_inj {m n : Nat} : ∀ k, bigEndian k m = bigEndian k n → m % 256 ^ k = n % 256 ^ k
  | 0, _ => by rw [Nat.pow_zero, Nat.mod_one, Nat.mod_one]
  | k + 1, h => by
    obtain ⟨first, rest⟩ := List.cons.inj h
    have digit : m / 256 ^ k % 256 = n / 256 ^ k % 256 := by simpa using congrArg UInt8.toNat first
    rw [Nat.mod_pow_succ, Nat.mod_pow_succ, bigEndian_inj k rest, digit]

theorem padded_inj {a b : List UInt8} (ha : a.length < 2 ^ 61) (hb : b.length < 2 ^ 61) (h : padded a = padded b) :
    a = b := by
  obtain ⟨front, back⟩ := List.append_inj' h (by rw [length_bigEndian, length_bigEndian])
  have len : a.length = b.length := by
    have := bigEndian_inj 8 back
    omega
  rw [List.append_assoc, List.append_assoc] at front
  exact List.append_inj_left front len

/-- **The padding is unambiguous.**  A digest compresses as many blocks as the message with its mark and its length
fills, and of two messages whose lengths fit into the padding, only the same have the same blocks. -/
theorem blocksOf_unambiguous :
    (∀ m, ∃ blocks, blocksOf m = .ok blocks ∧ blocks.length = (m.length + 9) ⌈/⌉ 64 ∧
      digest m = .ok (DigestState.bytesOfRegisters (blocks.foldl compress initialRegisters))) ∧
    ∀ a b : List UInt8, a.length < 2 ^ 61 → b.length < 2 ^ 61 → (blocksOf a = blocksOf b ↔ a = b) := by
  refine ⟨fun m => ⟨_, blocksOf_eq m, length_cut m, digest_eq m⟩, fun a b ha hb => ⟨fun same => ?_, congrArg blocksOf⟩⟩
  rw [blocksOf_eq, blocksOf_eq] at same
  have joined := congrArg (List.flatMap Vector.toList) (Except.ok.inj same)
  rw [flatMap_cut, flatMap_cut] at joined
  exact padded_inj ha hb joined

/-- A message that goes on with the padding of a shorter one has other blocks. -/
theorem blocksOf_unambiguous_padded : ([0x61] : List UInt8).length < 2 ^ 61 ∧ (padded [0x61]).length < 2 ^ 61 ∧
    blocksOf [0x61] ≠ blocksOf (padded [0x61]) := by
  have short : (padded [0x61]).length < 2 ^ 61 := by decide
  refine ⟨by decide, short, fun same => ?_⟩
  have equal := (blocksOf_unambiguous.2 [0x61] (padded [0x61]) (by decide) short).1 same
  exact absurd equal (by decide)

end BenchSuite.Sha256
