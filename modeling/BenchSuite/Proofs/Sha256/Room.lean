import Mathlib.Data.List.DropRight
import BenchSuite.Proofs.Sha256.Streaming
/-!
# Room in the block

An intake writes behind the bytes of its block that are taken, and so does the end of a message, and neither asks
whether the block goes on there.  Each has a value exactly where fewer than 64 bytes are taken (`take_isOk_iff`,
`lastBlocks_isOk_iff`), whatever stands in the block.  A byte that is taken leaves room for the next (`absorb_room`),
as the block that it fills is begun anew.

How many bytes are taken, how many bits are counted and what stands in the block is settled by the message alone
(`Took.holdsEnd`).
-/
namespace BenchSuite.Sha256

namespace Intake

variable {σ : Type} {step : σ → Block → σ} {init : σ} {s s' : Intake σ}

theorem absorb_isOk_iff {b : UInt8} : (∃ s', absorb step s b = .ok s') ↔ s.used < 64 := by
  constructor
  · rintro ⟨s', absorbed⟩
    obtain ⟨block, written, -⟩ := except_bind_ok absorbed
    exact Checked.put_isOk_iff.1 ⟨block, written⟩
  · intro room
    exact ⟨_, absorb_eq s.block room s.bits s.state b⟩

/-- **A byte taken leaves room** for one more. -/
theorem absorb_room {b : UInt8} (absorbed : absorb step s b = .ok s') : s'.used < 64 := by
  have room : s.used < 64 := absorb_isOk_iff.1 ⟨s', absorbed⟩
  have taken := (absorb_eq s.block room s.bits s.state b).symm.trans absorbed
  split at taken
  · cases taken
    exact Nat.zero_lt_succ 63
  · cases taken
    show s.used + 1 < 64
    omega

theorem take_room (room : s.used < 64) (bytes : List UInt8) : ∃ s', s.take step bytes = .ok s' ∧ s'.used < 64 := by
  refine Checked.foldlM_ok (fun b => [b]) (fun _ s => s.used < 64) (fun _ s b room => ?_) bytes [] s room
  obtain ⟨s', absorbed⟩ := absorb_isOk_iff.2 room
  exact ⟨s', absorbed, absorb_room absorbed⟩

/-- **Bytes are taken** exactly where there is room for the first. -/
theorem take_isOk_iff {b : UInt8} {bytes : List UInt8} :
    (∃ s', s.take step (b :: bytes) = .ok s') ↔ s.used < 64 := by
  constructor
  · rintro ⟨s', taken⟩
    obtain ⟨s₁, absorbed, -⟩ := except_bind_ok taken
    exact absorb_isOk_iff.1 ⟨s₁, absorbed⟩
  · intro room
    obtain ⟨s', taken, -⟩ := take_room room (b :: bytes)
    exact ⟨s', taken⟩

/-- **A message ends** exactly where there is room for its mark. -/
theorem lastBlocks_isOk_iff : (∃ last, s.lastBlocks = .ok last) ↔ s.used < 64 := by
  constructor
  · rintro ⟨last, ended⟩
    obtain ⟨block, marked, -⟩ := except_bind_ok ended
    exact Checked.put_isOk_iff.1 ⟨block, marked⟩
  · intro room
    obtain ⟨last, ended, -⟩ := lastBlocks_of_room room
    exact ⟨last, ended⟩

theorem finish_isOk_iff (step : σ → Block → σ) : (∃ state, s.finish step = .ok state) ↔ s.used < 64 :=
  except_return_isOk_iff.trans lastBlocks_isOk_iff

/-! ## What the block holds -/

/-- **An intake that holds the end of a message**: the bytes behind its full blocks stand first in the block, and the
bits of these blocks are counted. -/
structure HoldsEnd (m : List UInt8) (s : Intake σ) : Prop where
  used : s.used = m.length % 64
  bits : s.bits.toNat = 512 * (m.length / 64) % 2 ^ 64
  waiting : s.block.toList.take (m.length % 64) = m.rtake (m.length % 64)

theorem HoldsEnd.room {m : List UInt8} (h : HoldsEnd m s) : s.used < 64 := by
  rw [h.used]
  exact Nat.mod_lt _ (by decide)

theorem Took.holdsEnd {m : List UInt8} (took : Took step init m s) : HoldsEnd m s := by
  obtain ⟨blocks, rest, held⟩ := took
  have hlen := held.length
  have hshort := held.short
  have hrest : m.length % 64 = rest.length := by omega
  have hblocks : m.length / 64 = blocks.length := by omega
  refine ⟨held.used.trans hrest.symm, ?_, ?_⟩
  · rw [held.bits, UInt64.toNat_ofNat', hblocks]
  · have hjoined : (blocks.flatMap Vector.toList).length = m.length - rest.length := by
      rw [length_flatMap_blocks]
      omega
    have hend : m.rtake rest.length = rest := by
      rw [List.rtake, ← hjoined, held.split, List.drop_left]
    rw [hrest, held.waiting, hend]

end Intake

open Intake (HoldsEnd)

theorem finalize_isOk_iff {s : DigestState} : (∃ bytes, s.finalize = .ok bytes) ↔ s.used < 64 :=
  except_return_isOk_iff.trans (Intake.finish_isOk_iff compress)

/-- **A digest keeps to its block.**  After chunks of any number and length, at most 63 bytes of the block are taken
and they are the last of the message; the bits of the full blocks are counted modulo `2 ^ 64`; and no byte that is
still to come, nor the padding, is written outside the block. -/
theorem digest_keeps_to_block (chunks : List (List UInt8)) :
    ∃ s, chunks.foldlM DigestState.update DigestState.fresh = .ok s ∧ HoldsEnd chunks.flatten s ∧ s.used ≤ 63 ∧
      (∀ bytes, ∃ s', s.update bytes = .ok s') ∧ ∃ bytes, s.finalize = .ok bytes := by
  obtain ⟨s, taken, took⟩ := update_chunks chunks [] DigestState.fresh Intake.start_took
  have held : HoldsEnd chunks.flatten s := took.holdsEnd
  refine ⟨s, taken, held, Nat.le_of_lt_succ held.room, fun bytes => ?_, finalize_isOk_iff.2 held.room⟩
  cases bytes with
  | nil => exact ⟨s, rfl⟩
  | cons b bytes => exact Intake.take_isOk_iff.2 held.room

end BenchSuite.Sha256
