import Mathlib.Data.List.Perm.Subperm
import BenchSuite.Proofs.Registry.Calls
/-!
# Positions in a registry

The tags that are left after a row of calls are those of the suite with some taken out (`tags_eq_filter`).  So a
workload that is held moves up by one place for every workload before it that was left out, and it is at its place in
the suite just when there is none (`byIndex_after`).
-/
namespace BenchSuite

/-- What is left of a list without repetitions is what it keeps of it. -/
theorem eq_filter_of_sublist {α : Type} [DecidableEq α] {kept l : List α} (sub : kept.Sublist l) (once : l.Nodup) :
    kept = l.filter (· ∈ kept) := by
  have all : kept.Sublist (l.filter (· ∈ kept)) := by
    have filtered := sub.filter (· ∈ kept)
    rwa [List.filter_eq_self.2 fun a ha => decide_eq_true ha] at filtered
  have no_more : l.filter (· ∈ kept) ⊆ kept := fun a ha => by simpa using (List.mem_filter.1 ha).2
  exact all.eq_of_length_le (List.Nodup.subperm (once.filter _) no_more).length_le

/-- An element that is kept is found where as many kept ones come before it. -/
theorem getElem?_filter_iff {α : Type} {p : α → Bool} {l : List α} (once : l.Nodup) {j : Nat} {a : α}
    (place : l[j]? = some a) (kept : p a = true) (i : Nat) :
    (l.filter p)[i]? = some a ↔ i = (l.take j).countP p := by
  obtain ⟨h, rfl⟩ := List.getElem?_eq_some_iff.1 place
  have split : l.filter p = (l.take j).filter p ++ l[j] :: (l.drop (j + 1)).filter p := by
    conv => lhs; rw [← List.take_append_drop j l, List.drop_eq_getElem_cons h]
    rw [List.filter_append, List.filter_cons_of_pos kept]
  have there : (l.filter p)[(l.take j).countP p]? = some l[j] := by
    rw [split, List.countP_eq_length_filter, List.getElem?_append_right (Nat.le_refl _), Nat.sub_self]
    rfl
  constructor
  · intro found
    have bound : i < (l.filter p).length := (List.getElem?_eq_some_iff.1 found).1
    exact (List.getElem?_inj bound (once.filter p)).1 (found.trans there.symm)
  · rintro rfl
    exact there

namespace Registry

variable {r : Registry}

theorem getElem?_tags {i : Nat} {t : WorkloadTag} : r.tags[i]? = some t ↔ ∃ w, r.byIndex i = .ok w ∧ w.tag = t := by
  simp [tags, byIndex_eq_ok]

theorem tags_eq_filter (sound : Sound r) : r.tags = builtin.tags.filter r.contains := by
  have same : ∀ t, r.contains t = decide (t ∈ r.tags) := fun t => by
    rw [Bool.eq_iff_iff, contains_iff, decide_eq_true_eq]
  rw [List.filter_congr fun t _ => same t]
  exact eq_filter_of_sublist sound.tags_sublist Sound.builtin.nodup_tags

theorem tags_applyOverride (r : Registry) (o : PlanOverride) : (r.applyOverride o).2.tags = r.tags := by
  rcases applyOverride_cases r o with ⟨-, same⟩ | ⟨w, found, ⟨e, -, same⟩ | ⟨p, -, changed⟩⟩
  · rw [same]
  · rw [same]
  · rw [changed]
    exact map_replaceFirst Workload.tag (Workload.tag_withPlan w p) found

/-- **A run plan moves no workload**, refused or not. -/
theorem tags_apply : ∀ (os : List PlanOverride) (r : Registry), (apply os r).2.tags = r.tags
  | [], _ => rfl
  | o :: os, r => by
    have first := tags_applyOverride r o
    unfold apply
    split
    · rename_i done
      rw [done] at first
      rw [tags_apply os, first]
    · rename_i failed
      rwa [failed] at first

/-- **Where the workloads of the suite are after a row of calls.**  The workload at a place of the suite is, if it is
held, at the position given by how many of those before it are held, and at no other, whether it is asked for by a
position or by a selector that reads as one.  So it is still at its place just when none before it was left out; a run
plan applied next moves nothing. -/
theorem byIndex_after (calls : List Call) {j : Nat} {v : Workload} (place : builtin.byIndex j = .ok v) :
    let r := after calls
    let before := builtin.tags.take j
    (∀ i, (∃ w, r.byIndex i = .ok w ∧ w.tag = v.tag) ↔ r.contains v.tag = true ∧ i = before.countP r.contains) ∧
    (∀ s i, selectorIndex? s = some i →
      ((∃ w, r.select s = .ok w ∧ w.tag = v.tag) ↔ r.contains v.tag = true ∧ i = before.countP r.contains)) ∧
    ((∃ w, r.byIndex j = .ok w ∧ w.tag = v.tag) ↔ r.contains v.tag = true ∧ ∀ t ∈ before, r.contains t = true) ∧
    ∀ os, (apply os r).2.tags = r.tags := by
  intro r before
  have listed : builtin.tags[j]? = some v.tag := getElem?_tags.2 ⟨v, place, rfl⟩
  have positions (i : Nat) : (∃ w, r.byIndex i = .ok w ∧ w.tag = v.tag) ↔
      r.contains v.tag = true ∧ i = before.countP r.contains := by
    rw [← getElem?_tags, tags_eq_filter (sound_after calls)]
    by_cases held : r.contains v.tag = true
    · rw [getElem?_filter_iff Sound.builtin.nodup_tags listed held]
      simp [held, before]
    · refine ⟨fun found => absurd (List.mem_of_getElem? found) ?_, fun ⟨there, _⟩ => absurd there held⟩
      exact fun filtered => held (List.mem_filter.1 filtered).2
  refine ⟨positions, fun s i reads => ?_, ?_, fun os => tags_apply os r⟩
  · rw [← positions i]
    simp only [select, reads]
  · have length : before.length = j := List.length_take_of_le (Nat.le_of_lt (List.getElem?_eq_some_iff.1 listed).1)
    rw [positions j, ← List.countP_eq_length, length]
    exact and_congr_right fun _ => eq_comm

/-- The last workload of the suite is at position 1 where only the first is left with it. -/
theorem byIndex_after_two_left :
    let r := after [.retain [Workload.sha256.tag, Workload.sieve.tag]]
    builtin.byIndex 11 = .ok Workload.sha256 ∧ (∃ w, r.select "1" = .ok w ∧ w.tag = Workload.sha256.tag) ∧
      ¬ ∃ w, r.byIndex 11 = .ok w ∧ w.tag = Workload.sha256.tag := by
  intro r
  have place : builtin.byIndex 11 = .ok Workload.sha256 := rfl
  obtain ⟨-, selectors, kept, -⟩ := byIndex_after [.retain [Workload.sha256.tag, Workload.sieve.tag]] place
  refine ⟨place, (selectors "1" 1 (by decide +kernel)).2 (by decide +kernel), fun found => ?_⟩
  exact absurd (kept.1 found) (by decide +kernel)

/-- Not every position leads to the workload that it leads to in the suite. -/
theorem not_every_position_is_kept : ¬ ∀ (calls : List Call) (i : Nat) (w : Workload),
    (after calls).byIndex i = .ok w → ∃ v, builtin.byIndex i = .ok v ∧ v.tag = w.tag := by
  intro all
  have left : (after [.retain [Workload.sha256.tag]]).tags[0]? = some Workload.sha256.tag := by decide +kernel
  obtain ⟨w, found, tag⟩ := getElem?_tags.1 left
  have same := getElem?_tags.2 (all _ 0 w found)
  rw [tag] at same
  exact absurd same (by decide +kernel)

end Registry
end BenchSuite
