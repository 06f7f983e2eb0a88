import BenchSuite.Proofs.Sha256.Intake
/-!
# Digests of chunks

A digest takes its message in chunks of any length, empty ones too.  What it has taken is held in the sense
of `Intake.Took`, with the registers as the state, so its last blocks complete the padded message; and as the
blocks of joined blocks are these blocks, the registers are those of the message padded as a whole.
-/
namespace BenchSuite.Sha256

open Intake (Took)

theorem update_chunks (chunks : List (List UInt8)) (m : List UInt8) (s : DigestState)
    (h : Took compress initialRegisters m s) :
    ∃ s', chunks.foldlM DigestState.update s = .ok s' ∧ Took compress initialRegisters (m ++ chunks.flatten) s' := by
  have took := Checked.foldlM_ok id (Took compress initialRegisters) Intake.take_took chunks m s h
  rwa [List.flatMap_id] at took

theorem padded_split {m : List UInt8} {blocks last : List Block} {rest : List UInt8}
    (hm : m = blocks.flatMap Vector.toList ++ rest) (hlast : last.flatMap Vector.toList =
      rest ++ [0x80] ++ List.replicate (zeros m.length) 0 ++ bigEndian 8 (8 * m.length % 2 ^ 64)) :
    padded m = (blocks ++ last).flatMap Vector.toList := by
  calc padded m
    _ = m ++ ([0x80] ++ List.replicate (zeros m.length) 0 ++ bigEndian 8 (8 * m.length % 2 ^ 64)) := by
      simp only [padded, List.append_assoc]
    _ = blocks.flatMap Vector.toList ++ last.flatMap Vector.toList := by
      conv_lhs => arg 1; rw [hm]
      rw [hlast]
      simp only [List.append_assoc]
    _ = (blocks ++ last).flatMap Vector.toList := List.flatMap_append.symm

/-- **The state at the end** is that after the blocks of the padded message, whatever takes the blocks. -/
theorem finish_took {σ : Type} {step : σ → Block → σ} {init : σ} {m : List UInt8} {s : Intake σ}
    (h : Took step init m s) : s.finish step = .ok ((cut (padded m)).foldl step init) := by
  obtain ⟨blocks, rest, held⟩ := h
  obtain ⟨last, hlast, joined⟩ := Intake.lastBlocks_holds held
  rw [padded_split held.split joined, cut_flatMap, List.foldl_append, ← held.state, Intake.finish, hlast]
  rfl

theorem finalize_took {m : List UInt8} {s : DigestState} (h : Took compress initialRegisters m s) :
    s.finalize = .ok (DigestState.bytesOfRegisters ((cut (padded m)).foldl compress initialRegisters)) := by
  rw [DigestState.finalize, finish_took h]
  rfl

theorem digest_eq (m : List UInt8) :
    digest m = .ok (DigestState.bytesOfRegisters ((cut (padded m)).foldl compress initialRegisters)) := by
  obtain ⟨s, taken, took⟩ := Intake.take_start compress initialRegisters m
  rw [digest, DigestState.update, DigestState.fresh, taken]
  exact finalize_took took

/-- **A message in chunks** has the digest of the message padded as a whole, however it is cut; the zeros of
the padding are the fewest that fill up its last block. -/
theorem digest_of_chunks (chunks : List (List UInt8)) :
    IsLeast {z | 64 ∣ chunks.flatten.length + 1 + z + 8} (zeros chunks.flatten.length) ∧
    ∃ bytes, (do (← chunks.foldlM DigestState.update DigestState.fresh).finalize) = .ok bytes ∧
      bytes.toList = wholeDigest chunks.flatten ∧ digest chunks.flatten = .ok bytes := by
  obtain ⟨s, taken, took⟩ := update_chunks chunks [] DigestState.fresh Intake.start_took
  refine ⟨isLeast_zeros _, _, ?_, toList_bytesOfRegisters _, digest_eq _⟩
  rw [taken]
  exact finalize_took took

end BenchSuite.Sha256
