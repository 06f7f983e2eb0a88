import BenchSuite.Config.Reader
import BenchSuite.Proofs.Plan.Checks
/-!
# What an accepted run-plan file promises

A run plan that a text was read as has one override at most for each workload, and their warm-up counts are within
bounds (`Accepted.distinct`, `Accepted.bounded`).  Such an override is accepted by every plan within bounds
(`override_plan`), and such overrides are what the checks make of what is written for them (`checkEntries_written`).
-/
namespace BenchSuite

namespace PlanOverride

/-- The plan that an override makes of another. -/
def plan (o : PlanOverride) (p : RunPlan) : RunPlan := ⟨o.warmup.getD p.warmup, o.cycles.getD p.cycles⟩

/-- An override whose warm-up count, if it has one, is within bounds. -/
def Bounded (o : PlanOverride) : Prop := ∀ n ∈ o.warmup, n ≤ maxRepetitions

theorem warmup_plan_le {o : PlanOverride} (bounded : o.Bounded) {p : RunPlan} (h : p.warmup ≤ maxRepetitions) :
    (o.plan p).warmup ≤ maxRepetitions := by
  unfold plan
  cases given : o.warmup with
  | none => exact h
  | some n => exact bounded n given

/-- **A bounded override of a bounded plan is accepted.** -/
theorem override_plan {o : PlanOverride} (bounded : o.Bounded) {p : RunPlan} (h : p.warmup ≤ maxRepetitions) :
    p.override o.warmup (o.cycles.map Cycles.count) = .ok (o.plan p) := by
  refine RunPlan.ofCounts_eq_ok.2 ⟨warmup_plan_le bounded h, rfl, ?_⟩
  unfold plan
  cases o.cycles <;> rfl

end PlanOverride

theorem checkWarmup_le {tag : WorkloadTag} {w n : UInt32} (h : checkWarmup tag w = .ok n) : n ≤ maxRepetitions := by
  unfold checkWarmup at h
  split at h
  · rename_i bounded
    rwa [← Except.ok.inj h]
  · cases h

theorem DraftEntry.bounded_of_check {e : DraftEntry} {o : PlanOverride} (h : e.check = .ok o) : o.Bounded := by
  obtain ⟨tag, -, h⟩ := except_bind_ok h
  obtain ⟨warmup, checked, h⟩ := except_bind_ok h
  obtain ⟨cycles, -, h⟩ := except_bind_ok h
  obtain rfl := Except.ok.inj h
  rintro n (rfl : warmup = some n)
  cases written : e.warmup with
  | none =>
    rw [written] at checked
    cases checked
  | some w =>
    rw [written] at checked
    obtain ⟨m, count, same⟩ := except_bind_ok checked
    obtain rfl := Option.some.inj (Except.ok.inj same)
    exact checkWarmup_le count

theorem checkEntries_eq_ok : ∀ {entries : List DraftEntry} {seen : List WorkloadTag} {os : List PlanOverride},
    checkEntries seen entries = .ok os →
    (os.map (·.tag)).Nodup ∧ (∀ o ∈ os, o.tag ∉ seen) ∧ ∀ o ∈ os, o.Bounded
  | [], seen, os, h => by
    obtain rfl := Except.ok.inj h
    simp
  | e :: entries, seen, os, h => by
    obtain ⟨o, entry, h⟩ := except_bind_ok h
    split at h
    · cases h
    · rename_i fresh
      obtain ⟨rest, more, h⟩ := except_bind_ok h
      obtain rfl := Except.ok.inj h
      obtain ⟨distinct, apart, bounded⟩ := checkEntries_eq_ok more
      refine ⟨?_, ?_, ?_⟩
      · refine List.nodup_cons.2 ⟨fun again => ?_, distinct⟩
        obtain ⟨o', ho', same⟩ := List.mem_map.1 again
        exact apart o' ho' (same ▸ List.mem_cons_self)
      · refine List.forall_mem_cons.2 ⟨by simpa using fresh, fun o' ho' old => ?_⟩
        exact apart o' ho' (List.mem_cons_of_mem _ old)
      · exact List.forall_mem_cons.2 ⟨DraftEntry.bounded_of_check entry, bounded⟩

/-- What is written in a file for an override. -/
def PlanOverride.written (o : PlanOverride) : DraftEntry := ⟨o.tag.text, o.warmup, o.cycles.map Cycles.count⟩

theorem PlanOverride.check_written {o : PlanOverride} (bounded : o.Bounded) : o.written.check = .ok o := by
  have tag : WorkloadTag.ofString o.tag.text = .ok o.tag := WorkloadTag.ofString_eq_ok.2 rfl
  have warmup : o.warmup.mapM (checkWarmup o.tag) = .ok o.warmup := by
    cases given : o.warmup with
    | none => rfl
    | some n =>
      have checked : checkWarmup o.tag n = .ok n := if_pos (bounded n given)
      exact congrArg (some <$> ·) checked
  have cycles : (o.cycles.map Cycles.count).mapM Cycles.ofCount = .ok o.cycles := by
    cases o.cycles with
    | none => rfl
    | some c =>
      have checked : Cycles.ofCount c.count = .ok c := Cycles.ofCount_eq_ok.2 rfl
      exact congrArg (some <$> ·) checked
  simp only [written, DraftEntry.check, tag, warmup, cycles, bind, Except.bind]
  rfl

theorem checkEntries_written : ∀ {os : List PlanOverride} {seen : List WorkloadTag}, (os.map (·.tag)).Nodup →
    (∀ o ∈ os, o.tag ∉ seen) → (∀ o ∈ os, o.Bounded) → checkEntries seen (os.map PlanOverride.written) = .ok os
  | [], _, _, _, _ => rfl
  | o :: os, seen, once, fresh, bounded => by
    obtain ⟨apart, once⟩ := List.nodup_cons.1 once
    obtain ⟨fresh₁, fresh⟩ := List.forall_mem_cons.1 fresh
    obtain ⟨bounded₁, bounded⟩ := List.forall_mem_cons.1 bounded
    have rest := @checkEntries_written os (o.tag :: seen) once (fun o' ho' => by
      have other : o'.tag ≠ o.tag := fun same => apart (List.mem_map.2 ⟨o', ho', same⟩)
      simp [other, fresh o' ho']) bounded
    simp only [List.map_cons, checkEntries, PlanOverride.check_written bounded₁, rest, bind, Except.bind]
    rw [if_neg (by simpa using fresh₁)]
    rfl

namespace Config

/-- **A run plan that is accepted**: some text is read as it. -/
def Accepted (c : Config) : Prop := ∃ text, ofText text = .ok c

theorem Accepted.checkEntries {c : Config} (h : c.Accepted) : ∃ entries, checkEntries [] entries = .ok c.overrides := by
  obtain ⟨text, h⟩ := h
  unfold ofText at h
  split at h
  · cases h
  · rename_i draft _
    split at h
    · cases h
    · rename_i config checked
      obtain rfl := Except.ok.inj h
      unfold Draft.check at checked
      split at checked
      · cases checked
      · obtain ⟨os, entries, checked⟩ := except_bind_ok checked
        rw [← Except.ok.inj checked]
        exact ⟨_, entries⟩

theorem Accepted.distinct {c : Config} (h : c.Accepted) : (c.overrides.map (·.tag)).Nodup := by
  obtain ⟨_, checked⟩ := h.checkEntries
  exact (checkEntries_eq_ok checked).1

theorem Accepted.bounded {c : Config} (h : c.Accepted) : ∀ o ∈ c.overrides, o.Bounded := by
  obtain ⟨_, checked⟩ := h.checkEntries
  exact (checkEntries_eq_ok checked).2.2

end Config
end BenchSuite
