import BenchSuite.Plan
/-!
# What the checks of a plan accept

A tag, a cycle count and a plan are accepted within their bounds, and then with just the text and the counts that
were asked for.
-/
namespace BenchSuite

namespace WorkloadTag

theorem text_injective {t u : WorkloadTag} (h : t.text = u.text) : t = u := by
  cases t
  cases u
  cases h
  rfl

theorem ofString_eq_ok {s : String} {t : WorkloadTag} : ofString s = .ok t ↔ t.text = s := by
  constructor
  · intro h
    unfold ofString at h
    split at h
    · rw [← Except.ok.inj h]
    · cases h
  · rintro rfl
    unfold ofString
    split
    · rfl
    · rename_i fault found
      rw [t.wellFormed] at found
      cases found

/-- **What makes a text a tag.** -/
theorem ofString_isOk_iff {s : String} : (∃ t, ofString s = .ok t) ↔
    s ≠ "" ∧ s.utf8ByteSize ≤ maxTagLength ∧ ∀ c ∈ s.toList, isTagChar c = true := by
  have accepted : (∃ t, ofString s = .ok t) ↔ tagFault? s = none :=
    ⟨fun ⟨t, h⟩ => ofString_eq_ok.1 h ▸ t.wellFormed, fun h => ⟨⟨s, h⟩, ofString_eq_ok.2 rfl⟩⟩
  rw [accepted, tagFault?, ← List.all_eq_true]
  by_cases empty : s = ""
  · simp [empty]
  · by_cases long : maxTagLength < s.utf8ByteSize
    · simp [empty, long, Nat.not_le.2 long]
    · by_cases chars : s.toList.all isTagChar = true
      · simp [empty, long, chars, Nat.not_lt.1 long]
      · simp [empty, long, chars]

end WorkloadTag

namespace Cycles

theorem ofCount_eq_ok {n : UInt32} {c : Cycles} : ofCount n = .ok c ↔ c.count = n := by
  constructor
  · intro h
    unfold ofCount at h
    split at h
    · split at h
      · rw [← Except.ok.inj h]
      · cases h
    · cases h
  · rintro rfl
    rw [ofCount, dif_pos c.pos, dif_pos c.le_max]

theorem ofCount_isOk_iff {n : UInt32} : (∃ c, ofCount n = .ok c) ↔ 1 ≤ n ∧ n ≤ maxRepetitions := by
  constructor
  · rintro ⟨c, h⟩
    obtain rfl := ofCount_eq_ok.1 h
    exact ⟨c.pos, c.le_max⟩
  · rintro ⟨pos, le_max⟩
    exact ⟨⟨n, pos, le_max⟩, ofCount_eq_ok.2 rfl⟩

end Cycles

namespace RunPlan

theorem ofCounts_eq_ok {w n : UInt32} {p : RunPlan} :
    ofCounts w n = .ok p ↔ w ≤ maxRepetitions ∧ p.warmup = w ∧ p.cycles.count = n := by
  constructor
  · intro h
    unfold ofCounts at h
    split at h
    · rename_i bounded
      cases counted : Cycles.ofCount n with
      | error e =>
        rw [counted] at h
        cases h
      | ok c =>
        rw [counted] at h
        obtain rfl := Except.ok.inj h
        exact ⟨bounded, rfl, Cycles.ofCount_eq_ok.1 counted⟩
    · cases h
  · rintro ⟨bounded, rfl, h⟩
    rw [ofCounts, if_pos bounded, Cycles.ofCount_eq_ok.2 h]
    rfl

theorem warmup_le_of_override {p q : RunPlan} {w n : Option UInt32} (h : p.override w n = .ok q) :
    q.warmup ≤ maxRepetitions := by
  obtain ⟨bounded, same, -⟩ := ofCounts_eq_ok.1 h
  rwa [same]

end RunPlan

end BenchSuite
