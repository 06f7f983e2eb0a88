import Mathlib.Data.List.Nodup
import BenchSuite.Proofs.Plan.Checks
import BenchSuite.Registry
/-!
# Looking workloads up

Where no tag occurs twice, the ways to find a workload agree: by its tag, by its position, and by the list of tags
(`get_isOk_iff`, `get_of_byIndex`).  A workload whose plan is replaced stays where it is under its tag.
-/
namespace BenchSuite

namespace Workload

@[simp] theorem tag_withPlan (w : Workload) (p : RunPlan) : (w.withPlan p).tag = w.tag := rfl

@[simp] theorem withPlan_plan (w : Workload) : w.withPlan w.plan = w := rfl

end Workload

namespace Registry

variable {r : Registry} {t : WorkloadTag} {w : Workload} {i : Nat}

theorem mem_tags : t ∈ r.tags ↔ ∃ w ∈ r.workloads, w.tag = t := List.mem_map

theorem contains_iff : r.contains t = true ↔ t ∈ r.tags := by
  simp [contains, mem_tags]

theorem get_eq_ok {s : String} (h : r.get s = .ok w) : w ∈ r.workloads ∧ w.tag.text = s := by
  unfold get at h
  split at h
  · rename_i v found
    obtain rfl := Except.ok.inj h
    exact ⟨List.mem_of_find?_eq_some found, by simpa using List.find?_some found⟩
  · cases h

theorem get_isOk_iff : (∃ w, r.get t.text = .ok w) ↔ t ∈ r.tags := by
  constructor
  · rintro ⟨w, h⟩
    obtain ⟨held, named⟩ := get_eq_ok h
    exact mem_tags.2 ⟨w, held, WorkloadTag.text_injective named⟩
  · intro h
    obtain ⟨w, held, rfl⟩ := mem_tags.1 h
    unfold get
    split
    · exact ⟨_, rfl⟩
    · rename_i none
      exact absurd (List.find?_eq_none.1 none w held) (by simp)

theorem byIndex_eq_ok : r.byIndex i = .ok w ↔ r.workloads[i]? = some w := by
  unfold byIndex
  cases r.workloads[i]? <;> simp

theorem byIndex_of_size_le (h : r.size ≤ i) : r.byIndex i = .error (.unknownWorkload (toString i)) := by
  unfold byIndex
  rw [List.getElem?_eq_none h]

section

variable (once : r.tags.Nodup)
include once

theorem eq_of_same_tag {v : Workload} (hv : v ∈ r.workloads) (hw : w ∈ r.workloads) (same : v.tag = w.tag) : v = w :=
  List.inj_on_of_nodup_map once hv hw same

/-- **A workload is found by its tag.** -/
theorem get_tag (h : w ∈ r.workloads) : r.get w.tag.text = .ok w := by
  obtain ⟨v, found⟩ := get_isOk_iff.2 (mem_tags.2 ⟨w, h, rfl⟩)
  obtain ⟨held, named⟩ := get_eq_ok found
  rw [found, eq_of_same_tag once held h (WorkloadTag.text_injective named)]

/-- **Positions and tags lead to the same workload.** -/
theorem get_of_byIndex (h : i < r.size) :
    ∃ w, r.tags[i]? = some w.tag ∧ r.get w.tag.text = .ok w ∧ r.byIndex i = .ok w := by
  have there : r.workloads[i]? = some r.workloads[i] := List.getElem?_eq_getElem h
  refine ⟨r.workloads[i], ?_, get_tag once (List.getElem_mem h), byIndex_eq_ok.2 there⟩
  rw [tags, List.getElem?_map, there]
  rfl

end

/-! ## A workload replaced -/

theorem mem_replaceFirst {v : Workload} : ∀ {ws : List Workload}, v ∈ replaceFirst t w ws → v = w ∨ v ∈ ws
  | [], h => nomatch h
  | u :: ws, h => by
    unfold replaceFirst at h
    split at h
    · rcases List.mem_cons.1 h with rfl | rest
      · exact .inl rfl
      · exact .inr (List.mem_cons_of_mem _ rest)
    · rcases List.mem_cons.1 h with rfl | rest
      · exact .inr List.mem_cons_self
      · exact (mem_replaceFirst rest).imp_right (List.mem_cons_of_mem _)

/-- What is the same of a workload and its replacement stays as it was in the whole list. -/
theorem map_replaceFirst {α : Type} (f : Workload → α) {v : Workload} (same : f w = f v) :
    ∀ {ws : List Workload}, ws.find? (·.tag == t) = some v → (replaceFirst t w ws).map f = ws.map f
  | u :: ws, found => by
    unfold replaceFirst
    by_cases first : u.tag = t
    · rw [List.find?_cons_of_pos (by simpa using first)] at found
      obtain rfl := Option.some.inj found
      rw [if_pos first, List.map_cons, List.map_cons, same]
    · rw [List.find?_cons_of_neg (by simpa using first)] at found
      rw [if_neg first, List.map_cons, List.map_cons, map_replaceFirst f same found]

end Registry
end BenchSuite
