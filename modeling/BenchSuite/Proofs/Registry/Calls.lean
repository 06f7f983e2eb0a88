import BenchSuite.Proofs.Config.Accepted
import BenchSuite.Proofs.Registry.Lookup
/-!
# Rows of calls

The two calls that change a registry give workloads other plans and leave workloads out.  So whatever the calls and
however many of them fail, the registry holds built-in workloads in suite order, each once, under plans within
bounds (`sound_after`); and every way to look one up agrees (`after_keeps_suite`).
-/
namespace BenchSuite

/-- A workload but for its plan. -/
def Workload.unplanned (w : Workload) : Workload := w.withPlan ⟨0, .once⟩

namespace Registry

/-- A call that may change a registry. -/
inductive Call where
  /-- The overrides of a run plan that was accepted. -/
  | apply (config : Config) (accepted : config.Accepted)
  /-- A choice of tags. -/
  | retain (tags : List WorkloadTag)

/-- What a call answers, and the registry after it. -/
def Call.perform (r : Registry) : Call → Except BenchError Unit × Registry
  | .apply config _ => Registry.apply config.overrides r
  | .retain tags => r.retain tags

/-- **The registry after a row of calls** on the built-in one; a call that fails leaves what it leaves, and the
next one goes on. -/
def after (calls : List Call) : Registry := calls.foldl (fun r call => (call.perform r).2) builtin

/-! ## What a call does -/

theorem applyOverride_cases (r : Registry) (o : PlanOverride) :
    (o.tag ∉ r.tags ∧ r.applyOverride o = (.error (.unknownWorkload o.tag.text), r)) ∨
    ∃ w, r.workloads.find? (·.tag == o.tag) = some w ∧
      ((∃ e, w.plan.override o.warmup (o.cycles.map Cycles.count) = .error e ∧
          r.applyOverride o = (.error (.invalidPlan e), r)) ∨
        ∃ p, w.plan.override o.warmup (o.cycles.map Cycles.count) = .ok p ∧
          r.applyOverride o = (.ok (), ⟨replaceFirst o.tag (w.withPlan p) r.workloads⟩)) := by
  unfold applyOverride
  cases found : r.workloads.find? (·.tag == o.tag) with
  | none =>
    refine .inl ⟨fun held => ?_, rfl⟩
    obtain ⟨w, hw, same⟩ := mem_tags.1 held
    exact List.find?_eq_none.1 found w hw (by simpa using same)
  | some w =>
    refine .inr ⟨w, rfl, ?_⟩
    cases planned : w.plan.override o.warmup (o.cycles.map Cycles.count) with
    | error e => exact .inl ⟨e, rfl, by simp only [planned]⟩
    | ok p => exact .inr ⟨p, rfl, by simp only [planned]⟩

theorem retain_cases (r : Registry) (tags : List WorkloadTag) :
    (∃ t ∈ tags, t ∉ r.tags ∧ r.retain tags = (.error (.unknownWorkload t.text), r)) ∨
    (∀ t ∈ tags, t ∈ r.tags) ∧ r.retain tags = (.ok (), ⟨r.workloads.filter fun w => tags.contains w.tag⟩) := by
  unfold retain
  cases unknown : tags.find? fun t => !r.contains t with
  | some t =>
    refine .inl ⟨t, List.mem_of_find?_eq_some unknown, ?_, rfl⟩
    rw [← contains_iff]
    simpa using List.find?_some unknown
  | none =>
    refine .inr ⟨fun t ht => ?_, rfl⟩
    rw [← contains_iff]
    simpa using List.find?_eq_none.1 unknown t ht

/-! ## What calls keep -/

/-- **A registry that was made from the built-in one**: but for their plans its workloads are built in, in suite
order, and their warm-up counts are within bounds. -/
structure Sound (r : Registry) : Prop where
  suite : (r.workloads.map Workload.unplanned).Sublist (builtin.workloads.map Workload.unplanned)
  warmup_le : ∀ w ∈ r.workloads, w.plan.warmup ≤ maxRepetitions

namespace Sound

variable {r : Registry}

theorem applyOverride (h : Sound r) (o : PlanOverride) : Sound (r.applyOverride o).2 := by
  rcases applyOverride_cases r o with ⟨-, same⟩ | ⟨w, found, ⟨e, -, same⟩ | ⟨p, accepted, changed⟩⟩
  · rwa [same]
  · rwa [same]
  · rw [changed]
    refine ⟨?_, fun v hv => ?_⟩
    · have unplanned : (w.withPlan p).unplanned = w.unplanned := rfl
      rw [map_replaceFirst Workload.unplanned unplanned found]
      exact h.suite
    · rcases mem_replaceFirst hv with rfl | old
      · exact RunPlan.warmup_le_of_override accepted
      · exact h.warmup_le v old

theorem apply : ∀ (os : List PlanOverride) {r : Registry}, Sound r → Sound (Registry.apply os r).2
  | [], _, h => h
  | o :: os, r, h => by
    have first := h.applyOverride o
    unfold Registry.apply
    split
    · rename_i done
      rw [done] at first
      exact apply os first
    · rename_i failed
      rwa [failed] at first

theorem retain (h : Sound r) (tags : List WorkloadTag) : Sound (r.retain tags).2 := by
  rcases retain_cases r tags with ⟨t, -, -, same⟩ | ⟨-, changed⟩
  · rwa [same]
  · rw [changed]
    exact ⟨(List.filter_sublist.map _).trans h.suite, fun w hw => h.warmup_le w (List.mem_filter.1 hw).1⟩

theorem perform (h : Sound r) : ∀ call : Call, Sound (call.perform r).2
  | .apply config _ => h.apply config.overrides
  | .retain tags => h.retain tags

theorem builtin : Sound builtin := ⟨List.Sublist.refl _, by decide +kernel⟩

theorem tags_sublist (h : Sound r) : r.tags.Sublist Registry.builtin.tags := by
  have tags := h.suite.map Workload.tag
  rwa [List.map_map, List.map_map] at tags

theorem nodup_tags (h : Sound r) : r.tags.Nodup := h.tags_sublist.nodup (by decide +kernel)

/-- **A workload is the built-in one of its tag**, but for its plan. -/
theorem get_builtin (h : Sound r) {w : Workload} (held : w ∈ r.workloads) :
    ∃ v, Registry.builtin.get w.tag.text = .ok v ∧ w = v.withPlan w.plan := by
  obtain ⟨v, suite, same⟩ := List.mem_map.1 (h.suite.subset (List.mem_map_of_mem held))
  have tag : v.tag = w.tag := by simpa [Workload.unplanned] using congrArg Workload.tag same
  refine ⟨v, tag ▸ get_tag builtin.nodup_tags suite, ?_⟩
  exact congrArg (·.withPlan w.plan) same.symm

end Sound

theorem sound_foldl : ∀ (calls : List Call) {r : Registry}, Sound r →
    Sound (calls.foldl (fun r call => (call.perform r).2) r)
  | [], _, h => h
  | call :: calls, _, h => sound_foldl calls (h.perform call)

/-- **Every row of calls leaves a sound registry.** -/
theorem sound_after (calls : List Call) : Sound (after calls) := sound_foldl calls .builtin

/-- **What no row of calls can break**, failed calls among them: the tags are those of the suite in its order, some
left out and none twice; each workload is the built-in one of its tag, but for its plan; each plan is within bounds;
and a tag is found if it is held and listed, at the position where it is listed and at no position beyond. -/
theorem after_keeps_suite (calls : List Call) :
    (after calls).tags.Sublist builtin.tags ∧ (after calls).tags.Nodup ∧
    (∀ w ∈ (after calls).workloads, ∃ v, builtin.get w.tag.text = .ok v ∧
      w.description = v.description ∧ w.kernel = v.kernel ∧ w.golden = v.golden) ∧
    (∀ w ∈ (after calls).workloads, w.plan.warmup ≤ maxRepetitions ∧
      1 ≤ w.plan.cycles.count ∧ w.plan.cycles.count ≤ maxRepetitions) ∧
    (∀ t : WorkloadTag, ((∃ w, (after calls).get t.text = .ok w) ↔ (after calls).contains t = true) ∧
      ((after calls).contains t = true ↔ t ∈ (after calls).tags)) ∧
    (∀ i < (after calls).size, ∃ t w, (after calls).tags[i]? = some t ∧
      (after calls).get t.text = .ok w ∧ (after calls).byIndex i = .ok w) ∧
    ∀ i, (after calls).size ≤ i → (after calls).byIndex i = .error (.unknownWorkload (toString i)) := by
  have sound := sound_after calls
  refine ⟨sound.tags_sublist, sound.nodup_tags, fun w held => ?_, fun w held => ?_, fun t => ?_, fun i h => ?_,
    fun i => byIndex_of_size_le⟩
  · obtain ⟨v, suite, same⟩ := sound.get_builtin held
    exact ⟨v, suite, by rw [same]; exact ⟨rfl, rfl, rfl⟩⟩
  · exact ⟨sound.warmup_le w held, w.plan.cycles.pos, w.plan.cycles.le_max⟩
  · rw [get_isOk_iff, contains_iff]
    exact ⟨Iff.rfl, Iff.rfl⟩
  · obtain ⟨w, listed, found⟩ := get_of_byIndex sound.nodup_tags h
    exact ⟨w.tag, w, listed, found⟩

/-- A run plan for a workload of the suite and for one that there is not. -/
def halfKnown : Config :=
  ⟨defaultReportDir, true,
    [⟨Workload.sieve.tag, none, some .once⟩, ⟨⟨"richards", by decide⟩, none, none⟩]⟩

theorem accepted_halfKnown : halfKnown.Accepted :=
  ⟨"workloads: [{tag: sieve, cycles: 1}, {tag: richards}]", by decide +kernel⟩

/-- After a run plan that is refused at its second entry, a choice of two tags and a refused choice, two workloads
are found by their tags and at their positions, and none beyond. -/
theorem after_keeps_suite_two_left :
    let r := after [.apply halfKnown accepted_halfKnown, .retain [Workload.sha256.tag, Workload.sieve.tag],
      .retain [⟨"richards", by decide⟩]]
    r.tags = [Workload.sieve.tag, Workload.sha256.tag] ∧
      (∃ t w, r.tags[1]? = some t ∧ r.get t.text = .ok w ∧ r.byIndex 1 = .ok w) ∧
      r.byIndex 2 = .error (.unknownWorkload "2") := by
  intro r
  have tags : r.tags = [Workload.sieve.tag, Workload.sha256.tag] := by decide +kernel
  obtain ⟨-, -, -, -, -, positions, beyond⟩ := after_keeps_suite [.apply halfKnown accepted_halfKnown,
    .retain [Workload.sha256.tag, Workload.sieve.tag], .retain [⟨"richards", by decide⟩]]
  exact ⟨tags, positions 1 (by decide +kernel), beyond 2 (by decide +kernel)⟩

end Registry
end BenchSuite
