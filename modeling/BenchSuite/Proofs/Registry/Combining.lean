import BenchSuite.Proofs.Keyed
import BenchSuite.Proofs.Registry.Applying
/-!
# Run plans one after the other

What overrides ask for is a warm-up count and a number of cycles for each tag (`warmupFor`, `cyclesFor`), and a
registry under them is decided by these alone (`Workload.replanned_eq`).  So the order of the overrides of a run plan
is free, a run plan applied again changes nothing, and two run plans amount to one that asks for what the second asks
for, and otherwise for what the first does (`apply_accepted`).
-/
namespace BenchSuite

namespace PlanOverride

/-- The warm-up count that overrides ask for under a tag. -/
def warmupFor (os : List PlanOverride) (t : WorkloadTag) : Option UInt32 := (os.find? (·.tag == t)).bind (·.warmup)

/-- The number of cycles that overrides ask for under a tag. -/
def cyclesFor (os : List PlanOverride) (t : WorkloadTag) : Option Cycles := (os.find? (·.tag == t)).bind (·.cycles)

/-- **One list of overrides in place of two**: it names what either names, and under each tag and for each count it
asks for what the second asks for, and otherwise for what the first does. -/
structure Merges (os₁ os₂ os : List PlanOverride) : Prop where
  distinct : (os.map (·.tag)).Nodup
  named : ∀ t, t ∈ os.map (·.tag) ↔ t ∈ os₁.map (·.tag) ∨ t ∈ os₂.map (·.tag)
  warmup : ∀ t, warmupFor os t = (warmupFor os₂ t).or (warmupFor os₁ t)
  cycles : ∀ t, cyclesFor os t = (cyclesFor os₂ t).or (cyclesFor os₁ t)

/-- The first overrides with what the second ask for put over them, and the second ones of other workloads. -/
def merged (os₁ os₂ : List PlanOverride) : List PlanOverride :=
  os₁.map (fun o => ⟨o.tag, (warmupFor os₂ o.tag).or o.warmup, (cyclesFor os₂ o.tag).or o.cycles⟩) ++
    os₂.filter fun o => o.tag ∉ os₁.map (·.tag)

variable {os os' os₁ os₂ : List PlanOverride} {o : PlanOverride} {t : WorkloadTag}

theorem bounded_of_warmupFor (once : (os.map (·.tag)).Nodup)
    (bounded : ∀ t, ∀ n ∈ warmupFor os t, n ≤ maxRepetitions) (ho : o ∈ os) : o.Bounded := by
  intro n given
  refine bounded o.tag n ?_
  rw [warmupFor, (find?_key_eq_some once).2 ⟨ho, rfl⟩]
  exact given

theorem warmupFor_le (bounded : ∀ o ∈ os, o.Bounded) : ∀ n ∈ warmupFor os t, n ≤ maxRepetitions := by
  intro n given
  obtain ⟨o, found, asked⟩ := Option.bind_eq_some_iff.1 given
  exact bounded o (List.mem_of_find?_eq_some found) n asked

theorem Merges.bounded (m : Merges os₁ os₂ os) (bounded₁ : ∀ o ∈ os₁, o.Bounded) (bounded₂ : ∀ o ∈ os₂, o.Bounded) :
    ∀ o ∈ os, o.Bounded := by
  intro o ho
  refine bounded_of_warmupFor m.distinct (fun t n given => ?_) ho
  rw [m.warmup, Option.mem_def, Option.or_eq_some_iff] at given
  rcases given with second | ⟨-, first⟩
  · exact warmupFor_le bounded₂ n second
  · exact warmupFor_le bounded₁ n first

/-! ## The merged overrides -/

theorem find?_merged : (merged os₁ os₂).find? (·.tag == t) = match os₁.find? (·.tag == t) with
    | some o => some ⟨o.tag, (warmupFor os₂ o.tag).or o.warmup, (cyclesFor os₂ o.tag).or o.cycles⟩
    | none => os₂.find? (·.tag == t) := by
  unfold merged
  rw [List.find?_append, List.find?_map]
  cases found : os₁.find? (·.tag == t) with
  | some o => simp only [Function.comp_def, found, Option.map_some, Option.some_or]
  | none =>
    have other : t ∉ os₁.map (·.tag) := by simpa using found
    have same : ∀ o : PlanOverride, decide (decide (o.tag ∉ os₁.map (·.tag)) = true ∧ (o.tag == t) = true) =
        (o.tag == t) := fun o => by
      by_cases h : o.tag = t
      · rw [h]
        simpa using other
      · simp [h]
    simp only [Function.comp_def, found, Option.map_none, Option.none_or, List.find?_filter, same]

theorem bind_find?_merged {α : Type} (field : PlanOverride → Option α)
    (asked : ∀ o : PlanOverride, field ⟨o.tag, (warmupFor os₂ o.tag).or o.warmup, (cyclesFor os₂ o.tag).or o.cycles⟩ =
      ((os₂.find? (·.tag == o.tag)).bind field).or (field o)) :
    ((merged os₁ os₂).find? (·.tag == t)).bind field =
      ((os₂.find? (·.tag == t)).bind field).or ((os₁.find? (·.tag == t)).bind field) := by
  rw [find?_merged]
  cases found : os₁.find? (·.tag == t) with
  | none => simp
  | some o =>
    obtain rfl : o.tag = t := by simpa using List.find?_some found
    exact asked o

theorem tags_merged : (merged os₁ os₂).map (·.tag) =
    os₁.map (·.tag) ++ (os₂.map (·.tag)).filter fun t => t ∉ os₁.map (·.tag) := by
  simp [merged, List.filter_map, Function.comp_def]

theorem merges_merged (once₁ : (os₁.map (·.tag)).Nodup) (once₂ : (os₂.map (·.tag)).Nodup) :
    Merges os₁ os₂ (merged os₁ os₂) where
  distinct := by
    rw [tags_merged]
    refine List.Nodup.append once₁ (once₂.filter _) fun t h₁ h₂ => ?_
    exact absurd h₁ (by simpa using (List.mem_filter.1 h₂).2)
  named t := by
    rw [tags_merged, List.mem_append, List.mem_filter, decide_eq_true_eq]
    tauto
  warmup _ := bind_find?_merged (·.warmup) fun _ => rfl
  cycles _ := bind_find?_merged (·.cycles) fun _ => rfl

theorem merges_self (once : (os.map (·.tag)).Nodup) : Merges os os os where
  distinct := once
  named _ := or_self_iff.symm
  warmup _ := Option.or_self.symm
  cycles _ := Option.or_self.symm

end PlanOverride

open PlanOverride

/-! ## What a registry comes to under overrides -/

/-- A workload with the counts that overrides ask for under its tag, and its own otherwise. -/
def Workload.asked (os : List PlanOverride) (w : Workload) : Workload :=
  w.withPlan ⟨(warmupFor os w.tag).getD w.plan.warmup, (cyclesFor os w.tag).getD w.plan.cycles⟩

theorem Workload.replanned_eq (os : List PlanOverride) (w : Workload) : w.replanned os = w.asked os := by
  unfold replanned asked warmupFor cyclesFor
  cases found : os.find? (·.tag == w.tag) <;> rfl

namespace Registry

variable {r r' : Registry} {os os' os₁ os₂ : List PlanOverride}

theorem replanned_congr (warmup : ∀ t, warmupFor os t = warmupFor os' t)
    (cycles : ∀ t, cyclesFor os t = cyclesFor os' t) (r : Registry) : r.replanned os = r.replanned os' := by
  simp [replanned, Workload.replanned_eq, Workload.asked, warmup, cycles]

theorem replanned_merges (m : Merges os₁ os₂ os) (r : Registry) :
    (r.replanned os₁).replanned os₂ = r.replanned os := by
  simp [replanned, Workload.replanned_eq, Workload.asked, Workload.withPlan, m.warmup, m.cycles]

/-- **When overrides are applied, and what they leave.** -/
theorem apply_eq_ok_iff (sound : Sound r) (once : (os.map (·.tag)).Nodup) (bounded : ∀ o ∈ os, o.Bounded) :
    apply os r = (.ok (), r') ↔ (∀ o ∈ os, o.tag ∈ r.tags) ∧ r' = r.replanned os := by
  rcases held_or_unknown os r with held | ⟨done, o, rest, rfl, held, unknown⟩
  · rw [apply_held sound once bounded held]
    refine ⟨fun done => ⟨held, ?_⟩, fun ⟨_, left⟩ => by rw [left]⟩
    exact (congrArg Prod.snd done).symm
  · have bounded : ∀ d ∈ done, d.Bounded := fun d hd => bounded d (by simp [hd])
    rw [apply_unknown sound once bounded held unknown]
    constructor
    · intro refused
      cases congrArg Prod.fst refused
    · rintro ⟨all, -⟩
      exact absurd (all o (by simp)) unknown

theorem apply_perm (sound : Sound r) (once : (os.map (·.tag)).Nodup) (bounded : ∀ o ∈ os, o.Bounded)
    (perm : os'.Perm os) : apply os' r = (.ok (), r') ↔ apply os r = (.ok (), r') := by
  have once' : (os'.map (·.tag)).Nodup := (perm.map _).nodup_iff.2 once
  have bounded' : ∀ o ∈ os', o.Bounded := fun o ho => bounded o (perm.mem_iff.1 ho)
  have same : r.replanned os' = r.replanned os :=
    replanned_congr (fun t => by rw [warmupFor, warmupFor, find?_key_congr once fun _ _ => perm.mem_iff])
      (fun t => by rw [cyclesFor, cyclesFor, find?_key_congr once fun _ _ => perm.mem_iff]) r
  rw [apply_eq_ok_iff sound once' bounded', apply_eq_ok_iff sound once bounded, same]
  simp [perm.mem_iff]

/-- **Two lists of overrides, one after the other, are applied when the merged one is**, and leave the same. -/
theorem apply_merges (sound : Sound r) (once₁ : (os₁.map (·.tag)).Nodup) (once₂ : (os₂.map (·.tag)).Nodup)
    (bounded₁ : ∀ o ∈ os₁, o.Bounded) (bounded₂ : ∀ o ∈ os₂, o.Bounded) (m : Merges os₁ os₂ os) :
    apply os r = (.ok (), r') ↔ ∃ r₁, apply os₁ r = (.ok (), r₁) ∧ apply os₂ r₁ = (.ok (), r') := by
  have named : (∀ o ∈ os, o.tag ∈ r.tags) ↔ (∀ o ∈ os₁, o.tag ∈ r.tags) ∧ ∀ o ∈ os₂, o.tag ∈ r.tags := by
    have each : ∀ os : List PlanOverride, (∀ o ∈ os, o.tag ∈ r.tags) ↔ ∀ t ∈ os.map (·.tag), t ∈ r.tags := by simp
    simp only [each, m.named, or_imp, forall_and]
  rw [apply_eq_ok_iff sound m.distinct (m.bounded bounded₁ bounded₂), named]
  constructor
  · rintro ⟨⟨held₁, held₂⟩, rfl⟩
    have first := apply_held sound once₁ bounded₁ held₁
    have sound₁ := Sound.apply os₁ sound
    rw [first] at sound₁
    refine ⟨_, first, (apply_eq_ok_iff sound₁ once₂ bounded₂).2 ⟨?_, (replanned_merges m r).symm⟩⟩
    simpa using held₂
  · rintro ⟨r₁, first, second⟩
    have sound₁ := Sound.apply os₁ sound
    rw [first] at sound₁
    obtain ⟨held₁, rfl⟩ := (apply_eq_ok_iff sound once₁ bounded₁).1 first
    obtain ⟨held₂, rfl⟩ := (apply_eq_ok_iff sound₁ once₂ bounded₂).1 second
    exact ⟨⟨held₁, by simpa using held₂⟩, replanned_merges m r⟩

theorem apply_next (sound : Sound r) (once₁ : (os₁.map (·.tag)).Nodup) (bounded₁ : ∀ o ∈ os₁, o.Bounded)
    (applied : apply os₁ r = (.ok (), r')) (once₂ : (os₂.map (·.tag)).Nodup) (bounded₂ : ∀ o ∈ os₂, o.Bounded)
    (m : Merges os₁ os₂ os) {r₂ : Registry} : apply os r = (.ok (), r₂) ↔ apply os₂ r' = (.ok (), r₂) := by
  rw [apply_merges sound once₁ once₂ bounded₁ bounded₂ m]
  simp [applied]

/-- **Why overrides are refused.** -/
theorem apply_eq_error (sound : Sound r) (once : (os.map (·.tag)).Nodup) (bounded : ∀ o ∈ os, o.Bounded)
    {e : BenchError} (refused : apply os r = (.error e, r')) : ∃ done o rest, os = done ++ o :: rest ∧
      (∀ d ∈ done, d.tag ∈ r.tags) ∧ o.tag ∉ r.tags ∧ e = .unknownWorkload o.tag.text := by
  rcases held_or_unknown os r with held | ⟨done, o, rest, rfl, held, unknown⟩
  · rw [apply_held sound once bounded held] at refused
    cases congrArg Prod.fst refused
  · have bounded : ∀ d ∈ done, d.Bounded := fun d hd => bounded d (by simp [hd])
    rw [apply_unknown sound once bounded held unknown] at refused
    exact ⟨done, o, rest, rfl, held, unknown, (Except.error.inj (congrArg Prod.fst refused)).symm⟩

theorem apply_refused_iff (sound : Sound r) (once : (os.map (·.tag)).Nodup) (bounded : ∀ o ∈ os, o.Bounded) :
    (∃ e r', apply os r = (.error e, r')) ↔ ∃ o ∈ os, o.tag ∉ r.tags := by
  constructor
  · rintro ⟨e, r', refused⟩
    obtain ⟨done, o, rest, rfl, _, unknown, _⟩ := apply_eq_error sound once bounded refused
    exact ⟨o, by simp, unknown⟩
  · rintro ⟨o, ho, unknown⟩
    rcases answer : apply os r with ⟨e | _, r'⟩
    · exact ⟨e, r', rfl⟩
    · exact absurd (((apply_eq_ok_iff sound once bounded).1 answer).1 o ho) unknown

/-- **What a run plan means.**  It is refused just when some override names a workload that is not held, for the first
such override and never for its counts.  Applied, it gives each workload the counts that it asks for under its tag and
leaves the other counts; the order of its overrides is free, and applied again it changes nothing more.  A second run
plan can be merged with it into one that would be accepted, and is applied after it just when the merged one would
have been, which leaves the same. -/
theorem apply_accepted (calls : List Call) {config : Config} (accepted : config.Accepted) :
    let r := after calls
    let os := config.overrides
    (∀ e r', apply os r ≠ (.error (.invalidPlan e), r')) ∧
    ((∃ e r', apply os r = (.error e, r')) ↔ ∃ o ∈ os, o.tag ∉ r.tags) ∧
    (∀ e r', apply os r = (.error e, r') → ∃ done o rest, os = done ++ o :: rest ∧
      (∀ d ∈ done, d.tag ∈ r.tags) ∧ o.tag ∉ r.tags ∧ e = .unknownWorkload o.tag.text) ∧
    ∀ r', apply os r = (.ok (), r') →
      r'.workloads = r.workloads.map (Workload.asked os) ∧
      (∀ os', os'.Perm os → apply os' r = (.ok (), r')) ∧
      apply os r' = (.ok (), r') ∧
      ∀ config₂ : Config, config₂.Accepted →
        (∃ entries os', checkEntries [] entries = .ok os' ∧ Merges os config₂.overrides os') ∧
        ∀ os', Merges os config₂.overrides os' →
          ∀ r₂, apply os' r = (.ok (), r₂) ↔ apply config₂.overrides r' = (.ok (), r₂) := by
  intro r os
  have sound : Sound r := sound_after calls
  have once : (os.map (·.tag)).Nodup := accepted.distinct
  have bounded : ∀ o ∈ os, o.Bounded := accepted.bounded
  refine ⟨fun e r' refused => ?_, apply_refused_iff sound once bounded, fun e r' => apply_eq_error sound once bounded,
    fun r' applied => ⟨?_, fun os' perm => (apply_perm sound once bounded perm).2 applied, ?_, ?_⟩⟩
  · obtain ⟨_, _, _, _, _, _, cause⟩ := apply_eq_error sound once bounded refused
    cases cause
  · rw [((apply_eq_ok_iff sound once bounded).1 applied).2]
    simp [replanned, Workload.replanned_eq]
  · exact (apply_next sound once bounded applied once bounded (merges_self once)).1 applied
  · intro config₂ accepted₂
    have m := merges_merged once accepted₂.distinct
    exact ⟨⟨_, _, checkEntries_written m.distinct (by simp) (m.bounded bounded accepted₂.bounded), m⟩,
      fun os' m r₂ => apply_next sound once bounded applied accepted₂.distinct accepted₂.bounded m⟩

/-- A run plan with one cycle of the sieve and more warming up of the bodies. -/
def shortSieve : Config :=
  ⟨defaultReportDir, true, [⟨Workload.sieve.tag, none, some .once⟩, ⟨Workload.nbody.tag, some 5, none⟩]⟩

/-- A run plan with six cycles of the bodies and less warming up of both. -/
def longBodies : Config :=
  ⟨defaultReportDir, true, [⟨Workload.nbody.tag, some 2, some ⟨6, by decide, by decide⟩⟩,
    ⟨Workload.sieve.tag, some 0, none⟩]⟩

theorem accepted_shortSieve : shortSieve.Accepted :=
  ⟨"workloads: [{tag: sieve, cycles: 1}, {tag: nbody, warmup: 5}]", by decide +kernel⟩

theorem accepted_longBodies : longBodies.Accepted :=
  ⟨"workloads: [{tag: nbody, warmup: 2, cycles: 6}, {tag: sieve, warmup: 0}]", by decide +kernel⟩

/-- One run plan after another, and the two merged. -/
theorem apply_accepted_shortSieve_longBodies :
    let r := after [.retain [Workload.nbody.tag, Workload.sieve.tag]]
    ∃ r₁ r₂, apply shortSieve.overrides r = (.ok (), r₁) ∧ apply shortSieve.overrides.reverse r = (.ok (), r₁) ∧
      r₁.workloads.map (·.plan) = [⟨100, .once⟩, ⟨5, ⟨2, by decide, by decide⟩⟩] ∧
      apply longBodies.overrides r₁ = (.ok (), r₂) ∧
      apply (merged shortSieve.overrides longBodies.overrides) r = (.ok (), r₂) ∧
      r₂.workloads.map (·.plan) = [⟨0, .once⟩, ⟨2, ⟨6, by decide, by decide⟩⟩] := by
  intro r
  have first : apply shortSieve.overrides r = (.ok (), (apply shortSieve.overrides r).2) :=
    Prod.ext (by decide +kernel) rfl
  have second : apply longBodies.overrides (apply shortSieve.overrides r).2 =
      (.ok (), (apply longBodies.overrides (apply shortSieve.overrides r).2).2) := Prod.ext (by decide +kernel) rfl
  obtain ⟨-, -, -, applied⟩ := apply_accepted [.retain [Workload.nbody.tag, Workload.sieve.tag]] accepted_shortSieve
  obtain ⟨-, reordered, -, later⟩ := applied _ first
  refine ⟨_, _, first, reordered _ (List.reverse_perm _), by decide +kernel, second, ?_, by decide +kernel⟩
  exact ((later longBodies accepted_longBodies).2 _
    (merges_merged accepted_shortSieve.distinct accepted_longBodies.distinct) _).2 second

end Registry
end BenchSuite
