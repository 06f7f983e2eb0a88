import BenchSuite.Proofs.Harness.Run
/-!
# What a run tells

Each phase of a run is announced before it begins, so the log of a run shows how far it came (`run_of_warmUp_failed`,
`run_of_measured_failed`, `run_of_outcomes`).  It ends with the verdict just when there is one: an info record for a
report, an error record for a mismatch, and neither after a kernel error (`run_tells_truth`).
-/
namespace BenchSuite.Script

section

variable {τ : Type} (s : Script) (tag : WorkloadTag) (plan : RunPlan)

theorem firstFailure_eq_none_iff : ∀ (n i : Nat),
    s.firstFailure i n = none ↔ ∀ k, i ≤ k → k < i + n → ∃ o, s.result k = .ok o
  | 0, i => ⟨fun _ k h h' => by omega, fun _ => rfl⟩
  | n + 1, i => by
    rw [firstFailure]
    cases first : s.result i with
    | error e =>
      refine ⟨fun none => absurd none (Option.some_ne_none _), fun all => ?_⟩
      obtain ⟨o, fine⟩ := all i (Nat.le_refl i) (by omega)
      rw [first] at fine
      cases fine
    | ok o =>
      rw [firstFailure_eq_none_iff n (i + 1)]
      refine ⟨fun rest k low high => ?_, fun all k low high => all k (by omega) (by omega)⟩
      rcases Nat.eq_or_lt_of_le low with rfl | later
      · exact ⟨o, first⟩
      · exact rest k later (by omega)

/-- All calls of the warm-up come to an outcome. -/
def WarmsUp : Prop := ∀ k < plan.warmup.toNat, ∃ o, s.result k = .ok o

/-- All measured calls come to an outcome. -/
def Measures : Prop :=
  ∀ k, plan.warmup.toNat ≤ k → k < plan.warmup.toNat + plan.cycles.count.toNat → ∃ o, s.result k = .ok o

theorem warmsUp_iff : s.WarmsUp plan ↔ s.firstFailure 0 plan.warmup.toNat = none := by
  rw [firstFailure_eq_none_iff, WarmsUp]
  simp

variable (reading : Nat → τ) (elapsed : τ → τ → UInt64) (ticksPerMs : Float)

theorem run_of_warmUp_failed (failed : ¬ s.WarmsUp plan) :
    ∃ e, (s.runUnder reading elapsed ticksPerMs tag plan).1 = .error (.kernel e) ∧
      (s.runUnder reading elapsed ticksPerMs tag plan).2.records = [s.warmUpRecord tag plan] := by
  rw [warmsUp_iff] at failed
  obtain ⟨⟨k, e⟩, first⟩ := Option.ne_none_iff_exists'.1 failed
  exact ⟨e, by simp only [runUnder_eq, first, and_self]⟩

theorem run_of_measured_failed (warm : s.WarmsUp plan) (failed : ¬ s.Measures plan) :
    ∃ e, (s.runUnder reading elapsed ticksPerMs tag plan).1 = .error (.kernel e) ∧
      (s.runUnder reading elapsed ticksPerMs tag plan).2.records =
        [s.warmUpRecord tag plan, s.measuredRecord tag plan] := by
  rw [warmsUp_iff] at warm
  rw [Measures, ← firstFailure_eq_none_iff] at failed
  obtain ⟨⟨k, e⟩, first⟩ := Option.ne_none_iff_exists'.1 failed
  exact ⟨e, by simp only [runUnder_eq, warm, first, and_self]⟩

theorem run_of_outcomes (warm : s.WarmsUp plan) (timed : s.Measures plan) :
    let ticks := elapsed (reading 0) (reading 1)
    let totalMs := (clockOf reading elapsed ticksPerMs).ticksToMs ticks
    ∃ last, s.result (plan.warmup.toNat + plan.cycles.count.toNat - 1) = .ok last ∧
      (s.runUnder reading elapsed ticksPerMs tag plan).1 = (if s.accepts last then .ok (timing tag plan totalMs last)
        else .error (.verification ⟨tag.text, last.text⟩)) ∧
      (s.runUnder reading elapsed ticksPerMs tag plan).2.records = [s.warmUpRecord tag plan, s.measuredRecord tag plan,
        s.ticksRecord tag plan ticks, s.verdictRecord tag plan totalMs last] := by
  have pos : 0 < plan.cycles.count.toNat := UInt32.le_iff_toNat_le.1 plan.cycles.pos
  obtain ⟨last, hlast⟩ := timed (plan.warmup.toNat + plan.cycles.count.toNat - 1) (by omega) (by omega)
  rw [warmsUp_iff] at warm
  rw [Measures, ← firstFailure_eq_none_iff] at timed
  exact ⟨last, hlast, by simp only [runUnder_eq, warm, timed, hlast, List.cons_append, List.nil_append, and_self]⟩

end

/-- **A run tells the truth about itself.**  It announces its warm-up and, when no call of that failed, its measured
calls, each with the number that is planned; when none of these failed it tells the elapsed ticks, and then its
verdict: the counts and the average of the report where the last outcome is accepted, and that outcome where it is
not.  So an info record stands for a report, an error record for a mismatch, and a kernel error, the only other way
for a run to end, leaves none of the two. -/
theorem run_tells_truth {τ : Type} (s : Script) (tag : WorkloadTag) (plan : RunPlan) (reading : Nat → τ)
    (elapsed : τ → τ → UInt64) (ticksPerMs : Float) :
    let (answer, seen) := s.runUnder reading elapsed ticksPerMs tag plan
    let workload := ("workload", LogValue.text tag.text)
    let warming : LogRecord :=
      ⟨.debug, "Starting warm-up phase", [workload, ("iterations", .number plan.warmup.toNat)]⟩
    let measuring : LogRecord :=
      ⟨.debug, "Starting measured phase", [workload, ("iterations", .number plan.cycles.count.toNat)]⟩
    let measured : LogRecord :=
      ⟨.debug, "Measured phase finished", [workload, ("ticks", .number (elapsed (reading 0) (reading 1)).toNat)]⟩
    (¬ s.WarmsUp plan → seen.records = [warming]) ∧
    (s.WarmsUp plan → ¬ s.Measures plan → seen.records = [warming, measuring]) ∧
    (s.WarmsUp plan → s.Measures plan →
      ∃ last verdict, s.result (plan.warmup.toNat + plan.cycles.count.toNat - 1) = .ok last ∧
        seen.records = [warming, measuring, measured, verdict] ∧
        (s.accepts last = true → ∃ t, answer = .ok t ∧ verdict = ⟨.info, "Workload complete", [workload,
          ("warmup", .number t.warmup.toNat), ("cycles", .number t.cycles.toNat), ("average_ms", .real t.averageMs)]⟩) ∧
        (s.accepts last = false → answer = .error (.verification ⟨tag.text, last.text⟩) ∧
          verdict = ⟨.error, "Verification failed", [workload, ("actual", .text last.text)]⟩)) ∧
    ((∃ r ∈ seen.records, r.level = .info) ↔ ∃ t, answer = .ok t) ∧
    ((∃ r ∈ seen.records, r.level = .error) ↔ ∃ m, answer = .error (.verification m)) ∧
    ((∃ t, answer = .ok t) ∨ (∃ m, answer = .error (.verification m)) ∨
      ∃ e, answer = .error (.kernel e) ∧ ∀ r ∈ seen.records, r.level = .debug) := by
  by_cases cold : ¬ s.WarmsUp plan
  · obtain ⟨e, failed, records⟩ := run_of_warmUp_failed s tag plan reading elapsed ticksPerMs cold
    simp only [failed, records]
    simp [cold, warmUpRecord, Job.note, job]
  have warm := Classical.not_not.1 cold
  by_cases cut : ¬ s.Measures plan
  · obtain ⟨e, failed, records⟩ := run_of_measured_failed s tag plan reading elapsed ticksPerMs warm cut
    simp only [failed, records]
    simp [warm, cut, warmUpRecord, measuredRecord, Job.note, job]
  have timed := Classical.not_not.1 cut
  obtain ⟨last, hlast, answer, records⟩ := run_of_outcomes s tag plan reading elapsed ticksPerMs warm timed
  simp only [answer, records, hlast]
  cases verdict : s.accepts last with
  | true => simp [warm, timed, verdict, verdictRecord, warmUpRecord, measuredRecord, ticksRecord, timing, Job.note, job]
  | false => simp [warm, timed, verdict, verdictRecord, warmUpRecord, measuredRecord, ticksRecord, Job.note, job]

end BenchSuite.Script
