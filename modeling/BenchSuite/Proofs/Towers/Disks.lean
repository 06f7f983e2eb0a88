import Mathlib.Data.Fin.VecNotation
import BenchSuite.Proofs.Towers.Steps
/-!
# The disk that a refusal drops

A move takes a disk off its pile before it looks whether the disk fits on the other one.  A disk that does not fit is
then on no pile, and nothing puts it back: a refused call ends the program, so the towers are not repaired.  That is
the only way to lose a disk, and it loses the one that the refusal names (`move_keeps_disks`).
-/
namespace BenchSuite.Towers

variable {t t' : Towers}

/-- **What a move keeps.**  When it is done, or finds a pile empty, the same disks lie on the three piles together as
before; when it finds a disk too large, all but that one.  The number of disks, the piles and the depth at which the
move is refused are arbitrary. -/
theorem move_keeps_disks {calls : List Call} (reached : after calls = .ok t) {n source target : Nat}
    {result : Except KernelError Unit} (run : move n source target t = .ok (result, t')) :
    ∃ sizes sizes' : Fin pileCount → List UInt32, (∀ p : Fin pileCount, t.pileSizes p = .ok (sizes p)) ∧
      (∀ p : Fin pileCount, t'.pileSizes p = .ok (sizes' p)) ∧ (result = .ok () → total sizes' = total sizes) ∧
      ∀ e, result = .error e → total sizes = dropped e + total sizes' := by
  obtain ⟨piles, shown⟩ := sound_after reached
  have kept : EndsKeeping (total piles) (move n source target t) := ends_move n source target ⟨piles, shown, rfl⟩
  cases result with
  | ok _ =>
    obtain ⟨piles', shown', same⟩ := kept.of_done _ _ run
    exact ⟨piles, piles', shown.pileSizes, shown'.pileSizes, fun _ => same, by simp⟩
  | error e =>
    obtain ⟨_, ⟨piles', shown', rfl⟩, all⟩ := kept.of_refused _ _ run
    refine ⟨piles, piles', shown.pileSizes, shown'.pileSizes, by simp, ?_⟩
    rintro _ ⟨⟩
    exact all

/-- A tower of three and a single disk. -/
def towerAndDisk : List Call := [.build 0 2, .build 1 0]

theorem after_towerAndDisk : after towerAndDisk =
    .ok ⟨#[⟨2, none⟩, ⟨1, some 0⟩, ⟨0, some 1⟩, ⟨0, none⟩], #v[some 2, some 3, none], 0⟩ := by
  decide +kernel

/-- The tower is refused when its second disk comes to the single one, which is smaller. -/
theorem move_keeps_disks_towerAndDisk : ∃ t t' sizes sizes', after towerAndDisk = .ok t ∧
    move 3 0 2 t = .ok (.error (.oversizedDisk 1 0 1), t') ∧
    (∀ p : Fin pileCount, t.pileSizes p = .ok (sizes p)) ∧ (∀ p : Fin pileCount, t'.pileSizes p = .ok (sizes' p)) ∧
    t.pileSizes 0 = .ok [0, 1, 2] ∧ t'.pileSizes 0 = .ok [2] ∧ total sizes = 1 ::ₘ total sizes' := by
  have run : move 3 0 2 ⟨#[⟨2, none⟩, ⟨1, some 0⟩, ⟨0, some 1⟩, ⟨0, none⟩], #v[some 2, some 3, none], 0⟩ =
      .ok (.error (.oversizedDisk 1 0 1),
        ⟨#[⟨2, none⟩, ⟨1, none⟩, ⟨0, none⟩, ⟨0, none⟩], #v[some 0, some 3, some 2], 1⟩) := by
    decide +kernel
  obtain ⟨sizes, sizes', before, left, -, lost⟩ := move_keeps_disks after_towerAndDisk run
  exact ⟨_, _, sizes, sizes', after_towerAndDisk, run, before, left, by decide +kernel, by decide +kernel, lost _ rfl⟩

/-- A disk moved onto one of its own size is on no pile afterwards. -/
theorem not_every_move_keeps_disks : ¬ ∀ (calls : List Call) (t : Towers), after calls = .ok t →
    ∀ (n : Nat) (source target : Fin pileCount), 1 ≤ n → source ≠ target →
    ∀ (result : Except KernelError Unit) (t' : Towers), move n source target t = .ok (result, t') →
    ∀ sizes sizes' : Fin pileCount → List UInt32, (∀ p : Fin pileCount, t.pileSizes p = .ok (sizes p)) →
      (∀ p : Fin pileCount, t'.pileSizes p = .ok (sizes' p)) → total sizes' = total sizes := by
  intro all
  have reached : after [.build 0 1, .build 1 0] =
      .ok ⟨#[⟨1, none⟩, ⟨0, some 0⟩, ⟨0, none⟩], #v[some 1, some 2, none], 0⟩ := by
    decide +kernel
  have run : move 1 0 1 ⟨#[⟨1, none⟩, ⟨0, some 0⟩, ⟨0, none⟩], #v[some 1, some 2, none], 0⟩ =
      .ok (.error (.oversizedDisk 0 0 1), ⟨#[⟨1, none⟩, ⟨0, none⟩, ⟨0, none⟩], #v[some 0, some 2, none], 0⟩) := by
    decide +kernel
  have same := all _ _ reached 1 0 1 le_rfl (by decide) _ _ run ![[0, 1], [0], []] ![[1], [0], []]
    (by decide +kernel) (by decide +kernel)
  exact absurd same (by decide +kernel)

end BenchSuite.Towers
