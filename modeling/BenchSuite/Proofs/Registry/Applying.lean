import BenchSuite.Proofs.Registry.Calls
/-!
# Applying a run plan

The overrides of an accepted run plan are applied up to the first whose workload is not held, and each of those
before it replaces the counts that it gives (`apply_held`, `apply_unknown`).  So a run plan that is refused may
have changed plans: it leaves the registry under the overrides before the refused one (`apply_refused`).
-/
namespace BenchSuite

namespace Workload

/-- The workload under the first override of its tag. -/
def replanned (os : List PlanOverride) (w : Workload) : Workload :=
  match os.find? (·.tag == w.tag) with
  | some o => w.withPlan (o.plan w.plan)
  | none => w

variable {os : List PlanOverride} {o : PlanOverride} {w : Workload}

@[simp] theorem replanned_nil (w : Workload) : w.replanned [] = w := rfl

@[simp] theorem tag_replanned (os : List PlanOverride) (w : Workload) : (w.replanned os).tag = w.tag := by
  unfold replanned
  split <;> rfl

theorem replanned_cons_of_eq (h : o.tag = w.tag) : w.replanned (o :: os) = w.withPlan (o.plan w.plan) := by
  simp [replanned, h]

theorem replanned_cons_of_ne (h : o.tag ≠ w.tag) : w.replanned (o :: os) = w.replanned os := by
  simp [replanned, h]

theorem replanned_of_not_mem (h : w.tag ∉ os.map (·.tag)) : w.replanned os = w := by
  unfold replanned
  split
  · rename_i o found
    refine absurd (List.mem_map.2 ⟨o, List.mem_of_find?_eq_some found, ?_⟩) h
    simpa using List.find?_some found
  · rfl

theorem replanned_replanned (fresh : o.tag ∉ os.map (·.tag)) (w : Workload) :
    (w.replanned [o]).replanned os = w.replanned (o :: os) := by
  by_cases h : o.tag = w.tag
  · rw [replanned_cons_of_eq h, replanned_cons_of_eq h, replanned_of_not_mem]
    rwa [tag_withPlan, ← h]
  · rw [replanned_cons_of_ne h, replanned_cons_of_ne h, replanned_nil]

theorem replanned_eq_self_iff (once : (os.map (·.tag)).Nodup) :
    w.replanned os = w ↔ ∀ o ∈ os, o.tag = w.tag → o.plan w.plan = w.plan := by
  induction os with
  | nil => simp
  | cons o os ih =>
    obtain ⟨fresh, once⟩ := List.nodup_cons.1 once
    rw [List.forall_mem_cons]
    by_cases h : o.tag = w.tag
    · have others : ∀ o' ∈ os, o'.tag = w.tag → o'.plan w.plan = w.plan := fun o' ho' same =>
        absurd (List.mem_map.2 ⟨o', ho', same.trans h.symm⟩) fresh
      rw [replanned_cons_of_eq h]
      refine ⟨fun same => ⟨fun _ => congrArg plan same, others⟩, fun ⟨same, _⟩ => ?_⟩
      rw [same h, withPlan_plan]
    · rw [replanned_cons_of_ne h, ih once]
      exact ⟨fun same => ⟨fun named => absurd named h, same⟩, fun same => same.2⟩

end Workload

namespace Registry

variable {r : Registry} {os : List PlanOverride} {o : PlanOverride}

/-- The registry under overrides. -/
def replanned (os : List PlanOverride) (r : Registry) : Registry := ⟨r.workloads.map (Workload.replanned os)⟩

@[simp] theorem replanned_nil (r : Registry) : r.replanned [] = r := by
  have same : r.workloads.map (Workload.replanned []) = r.workloads := List.map_id _
  rw [replanned, same]

@[simp] theorem tags_replanned (os : List PlanOverride) (r : Registry) : (r.replanned os).tags = r.tags := by
  simp [replanned, tags]

theorem replanned_replanned (fresh : o.tag ∉ os.map (·.tag)) (r : Registry) :
    (r.replanned [o]).replanned os = r.replanned (o :: os) := by
  simp [replanned, Workload.replanned_replanned fresh]

/-- Where no tag occurs twice, replacing the first workload of a tag is replacing all of them. -/
theorem replaceFirst_eq_map {t : WorkloadTag} {w : Workload} (f : Workload → Workload) :
    ∀ {ws : List Workload}, (ws.map (·.tag)).Nodup → ws.find? (·.tag == t) = some w →
    (∀ v ∈ ws, v.tag ≠ t → f v = v) → replaceFirst t (f w) ws = ws.map f
  | u :: ws, once, found, others => by
    obtain ⟨fresh, once⟩ := List.nodup_cons.1 once
    obtain ⟨first, rest⟩ := List.forall_mem_cons.1 others
    unfold replaceFirst
    by_cases named : u.tag = t
    · rw [List.find?_cons_of_pos (by simpa using named)] at found
      obtain rfl := Option.some.inj found
      have same : ws.map f = ws.map id := List.map_congr_left fun v hv =>
        rest v hv fun again => fresh (List.mem_map.2 ⟨v, hv, again.trans named.symm⟩)
      rw [if_pos named, List.map_cons, same, List.map_id]
    · rw [List.find?_cons_of_neg (by simpa using named)] at found
      rw [if_neg named, List.map_cons, first named, replaceFirst_eq_map f once found rest]

section

variable (sound : Sound r)
include sound

theorem applyOverride_held (bounded : o.Bounded) (held : o.tag ∈ r.tags) :
    r.applyOverride o = (.ok (), r.replanned [o]) := by
  rcases applyOverride_cases r o with ⟨unknown, -⟩ | ⟨w, found, h⟩
  · exact absurd held unknown
  · have named : w.tag = o.tag := by simpa using List.find?_some found
    have accepted := PlanOverride.override_plan bounded (sound.warmup_le w (List.mem_of_find?_eq_some found))
    have replaced := replaceFirst_eq_map (Workload.replanned [o]) sound.nodup_tags found fun v _ other =>
      Workload.replanned_cons_of_ne (Ne.symm other)
    rw [Workload.replanned_cons_of_eq named.symm] at replaced
    rcases h with ⟨e, refused, -⟩ | ⟨p, planned, changed⟩
    · rw [accepted] at refused
      cases refused
    · rw [accepted] at planned
      rw [changed, ← Except.ok.inj planned, replaced]
      rfl

end

theorem applyOverride_unknown (unknown : o.tag ∉ r.tags) :
    r.applyOverride o = (.error (.unknownWorkload o.tag.text), r) := by
  rcases applyOverride_cases r o with ⟨-, refused⟩ | ⟨w, found, -⟩
  · exact refused
  · exact absurd (mem_tags.2 ⟨w, List.mem_of_find?_eq_some found, by simpa using List.find?_some found⟩) unknown

/-- **Overrides of workloads that are held are all applied.** -/
theorem apply_held : ∀ {os : List PlanOverride} {r : Registry}, Sound r → (os.map (·.tag)).Nodup →
    (∀ o ∈ os, o.Bounded) → (∀ o ∈ os, o.tag ∈ r.tags) → apply os r = (.ok (), r.replanned os)
  | [], r, _, _, _, _ => by rw [apply, replanned_nil]
  | o :: os, r, sound, once, bounded, held => by
    obtain ⟨fresh, once⟩ := List.nodup_cons.1 once
    obtain ⟨bounded₁, bounded⟩ := List.forall_mem_cons.1 bounded
    obtain ⟨held₁, held⟩ := List.forall_mem_cons.1 held
    have step := applyOverride_held sound bounded₁ held₁
    have next : Sound (r.replanned [o]) := by
      have after := sound.applyOverride o
      rwa [step] at after
    have more := apply_held next once bounded fun o' ho' => by
      rw [tags_replanned]
      exact held o' ho'
    rw [apply, step]
    simp only [more, replanned_replanned fresh]

theorem apply_append (rest : List PlanOverride) : ∀ (done : List PlanOverride) (r : Registry),
    apply (done ++ rest) r = match apply done r with
      | (.ok (), r') => apply rest r'
      | (.error e, r') => (.error e, r')
  | [], r => rfl
  | o :: done, r => by
    rw [List.cons_append, apply, apply]
    rcases r.applyOverride o with ⟨e | _, r'⟩
    · rfl
    · exact apply_append rest done r'

/-- **Overrides are applied up to the first whose workload is not held.** -/
theorem apply_unknown {done rest : List PlanOverride} (sound : Sound r)
    (once : ((done ++ o :: rest).map (·.tag)).Nodup) (bounded : ∀ o ∈ done, o.Bounded)
    (held : ∀ d ∈ done, d.tag ∈ r.tags) (unknown : o.tag ∉ r.tags) :
    apply (done ++ o :: rest) r = (.error (.unknownWorkload o.tag.text), r.replanned done) := by
  have first := apply_held sound ((List.sublist_append_left done _).map _ |>.nodup once) bounded held
  rw [apply_append, first]
  simp only [apply]
  rw [applyOverride_unknown (by rwa [tags_replanned])]

theorem held_or_unknown (os : List PlanOverride) (r : Registry) : (∀ o ∈ os, o.tag ∈ r.tags) ∨
    ∃ done o rest, os = done ++ o :: rest ∧ (∀ d ∈ done, d.tag ∈ r.tags) ∧ o.tag ∉ r.tags := by
  cases found : os.find? fun o => decide (o.tag ∉ r.tags) with
  | none => exact .inl (by simpa using found)
  | some o =>
    obtain ⟨unknown, done, rest, split, held⟩ := List.find?_eq_some_iff_append.1 found
    exact .inr ⟨done, o, rest, split, by simpa using held, by simpa using unknown⟩

theorem replanned_eq_self_iff (once : (os.map (·.tag)).Nodup) :
    r.replanned os = r ↔ ∀ w ∈ r.workloads, ∀ o ∈ os, o.tag = w.tag → o.plan w.plan = w.plan := by
  have each : r.replanned os = r ↔ r.workloads.map (Workload.replanned os) = r.workloads.map id := by
    rw [List.map_id]
    exact ⟨congrArg workloads, congrArg mk⟩
  rw [each, List.map_inj_left]
  exact forall₂_congr fun w _ => Workload.replanned_eq_self_iff once

/-- **A refused run plan leaves the registry under the overrides before the refused one**, which is the first whose
workload is not held.  So nothing has changed just where each of them asks for the counts that its workload has. -/
theorem apply_refused (calls : List Call) {config : Config} (accepted : config.Accepted) {e : BenchError}
    {r : Registry} (refused : apply config.overrides (after calls) = (.error e, r)) :
    ∃ done o rest, config.overrides = done ++ o :: rest ∧ (∀ d ∈ done, d.tag ∈ (after calls).tags) ∧
      o.tag ∉ (after calls).tags ∧ e = .unknownWorkload o.tag.text ∧
      r.workloads = (after calls).workloads.map (Workload.replanned done) ∧
      (r = after calls ↔ ∀ w ∈ (after calls).workloads, ∀ d ∈ done, d.tag = w.tag → d.plan w.plan = w.plan) := by
  have once := accepted.distinct
  rcases held_or_unknown config.overrides (after calls) with held | ⟨done, o, rest, split, held, unknown⟩
  · rw [apply_held (sound_after calls) once accepted.bounded held] at refused
    cases refused
  · have bounded : ∀ d ∈ done, d.Bounded := fun d hd =>
      accepted.bounded d (split ▸ List.mem_append_left _ hd)
    rw [split] at once refused
    rw [apply_unknown (sound_after calls) once bounded held unknown] at refused
    obtain ⟨rfl, rfl⟩ : .unknownWorkload o.tag.text = e ∧ (after calls).replanned done = r := by simpa using refused
    exact ⟨done, o, rest, split, held, unknown, rfl, rfl,
      replanned_eq_self_iff (((List.sublist_append_left done _).map _).nodup once)⟩

theorem refused_halfKnown : apply halfKnown.overrides (after []) =
    (.error (.unknownWorkload "richards"), (apply halfKnown.overrides (after [])).2) :=
  Prod.ext (by decide +kernel) rfl

/-- The second override is refused, and the first one stays. -/
theorem apply_refused_halfKnown : ∃ done o rest, halfKnown.overrides = done ++ o :: rest ∧
    (∀ d ∈ done, d.tag ∈ (after []).tags) ∧ o.tag ∉ (after []).tags ∧
    (apply halfKnown.overrides (after [])).2.workloads = (after []).workloads.map (Workload.replanned done) := by
  obtain ⟨done, o, rest, split, held, unknown, -, left, -⟩ := apply_refused [] accepted_halfKnown refused_halfKnown
  exact ⟨done, o, rest, split, held, unknown, left⟩

/-- Not every refused run plan leaves the registry as it was. -/
theorem not_every_refusal_keeps_plans : ¬ ∀ (calls : List Call) (config : Config), config.Accepted →
    ∀ e r, apply config.overrides (after calls) = (.error e, r) → r = after calls := by
  intro all
  have same := all [] halfKnown accepted_halfKnown _ _ refused_halfKnown
  have plans : (apply halfKnown.overrides (after [])).2.workloads.map (·.plan) ≠
      (after []).workloads.map (·.plan) := by decide +kernel
  exact plans (congrArg (fun r => r.workloads.map (·.plan)) same)

end Registry
end BenchSuite
