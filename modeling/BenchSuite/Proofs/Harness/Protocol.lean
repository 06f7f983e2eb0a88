import BenchSuite.Proofs.Harness.Run
/-!
# The protocol of a run

Under any plan, results, clock and verdicts (`run_protocol`): the first failure among the warm-up and
measured calls ends the run, unread and unchecked, with that error.  Without one, the clock is read
right before and right after the measured calls, and the last outcome alone is checked.
-/
namespace BenchSuite.Script

/-- **The protocol of a run.**  Calls are counted from zero: call `k` is the `k + 1`st.

A first failure at a call among the `w + c` planned ones ends the run right after that call, with its
error, without a check, and with a reading of the clock only if the warm-up was over.  Without a failure
all calls are made, the clock is read after `w` and after `w + c` of them, and the last outcome is
checked once, after the second reading; the report carries the time between the two readings and its
`c`th part. -/
theorem run_protocol {τ : Type} (s : Script) (tag : WorkloadTag) (plan : RunPlan) (reading : Nat → τ)
    (elapsed : τ → τ → UInt64) (ticksPerMs : Float) :
    let w := plan.warmup.toNat
    let c := plan.cycles.count.toNat
    let (answer, seen) := s.runUnder reading elapsed ticksPerMs tag plan
    (∀ k e, k < w + c → s.result k = .error e → (∀ j < k, ∃ o, s.result j = .ok o) →
      answer = .error (.kernel e) ∧ seen.calls = k + 1 ∧ seen.checks = [] ∧
        seen.reads = if k < w then [] else [w]) ∧
    ((∀ k < w + c, ∃ o, s.result k = .ok o) →
      ∃ last, s.result (w + c - 1) = .ok last ∧
        seen.calls = w + c ∧ seen.reads = [w, w + c] ∧ seen.checks = [⟨last, 2⟩] ∧
        let totalMs := (clockOf reading elapsed ticksPerMs).ticksToMs (elapsed (reading 0) (reading 1))
        answer = if s.accepts last then
            .ok { tag, warmup := plan.warmup, cycles := plan.cycles.count, totalMs
                  averageMs := totalMs / Float.ofNat c, outcome := last }
          else .error (.verification ⟨tag.text, last.text⟩)) := by
  have hc : 0 < plan.cycles.count.toNat := UInt32.le_iff_toNat_le.1 plan.cycles.pos
  simp only [runUnder_eq]
  refine ⟨fun k e hk he before => ?_, fun all => ?_⟩
  · by_cases hw : k < plan.warmup.toNat
    · have first := firstFailure_eq_some s he before plan.warmup.toNat 0 (by omega) (by omega)
      simp only [first, if_pos hw, and_self]
    · have warm := firstFailure_eq_none s plan.warmup.toNat 0 (fun j hj => before j (by omega))
      have first := firstFailure_eq_some s he before plan.cycles.count.toNat plan.warmup.toNat
        (by omega) hk
      simp only [warm, first, if_neg hw, and_self]
  · obtain ⟨last, hlast⟩ := all (plan.warmup.toNat + plan.cycles.count.toNat - 1) (by omega)
    have warm := firstFailure_eq_none s plan.warmup.toNat 0 (fun j hj => all j (by omega))
    have timed := firstFailure_eq_none s plan.cycles.count.toNat plan.warmup.toNat all
    refine ⟨last, hlast, ?_⟩
    simp only [warm, timed, hlast, timing, and_self]

/-- Three outcomes, and failures from then on. -/
def threeOutcomes : Script where
  result k := if k < 3 then .ok (.count (UInt64.ofNat k)) else .error (.emptyPile 2)
  reading k := UInt64.ofNat (1000 * k)
  accepts _ := true

/-- After one warm-up call, four more calls meet the failure, and two more come to a report. -/
theorem run_protocol_threeOutcomes :
    let tag : WorkloadTag := ⟨"sieve", by decide⟩
    let failed := threeOutcomes.runUnder id Clock.elapsedNanos 1000000 tag ⟨1, ⟨4, by decide, by decide⟩⟩
    let passed := threeOutcomes.runUnder id Clock.elapsedNanos 1000000 tag ⟨1, ⟨2, by decide, by decide⟩⟩
    (failed.1 = .error (.kernel (.emptyPile 2)) ∧ failed.2.calls = 4 ∧ failed.2.checks = [] ∧
      failed.2.reads = [1]) ∧
    ∃ last, threeOutcomes.result 2 = .ok last ∧ passed.2.calls = 3 ∧ passed.2.reads = [1, 3] ∧
      passed.2.checks = [⟨last, 2⟩] := by
  intro tag failed passed
  have fine : ∀ j < 3, ∃ o, threeOutcomes.result j = .ok o := fun j hj =>
    ⟨.count (UInt64.ofNat j), if_pos hj⟩
  refine ⟨?_, ?_⟩
  · exact (run_protocol threeOutcomes tag ⟨1, ⟨4, by decide, by decide⟩⟩ id Clock.elapsedNanos
      1000000).1 3 (.emptyPile 2) (by decide) rfl fine
  · obtain ⟨last, hlast, calls, reads, checks, -⟩ := (run_protocol threeOutcomes tag
      ⟨1, ⟨2, by decide, by decide⟩⟩ id Clock.elapsedNanos 1000000).2 fine
    exact ⟨last, hlast, calls, reads, checks⟩

end BenchSuite.Script
