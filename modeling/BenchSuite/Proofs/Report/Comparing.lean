import BenchSuite.Proofs.Keyed
import BenchSuite.Proofs.Plan.Checks
import BenchSuite.Report
import BenchSuite.Workload
/-!
# Comparing a report with a baseline

A comparison goes through the results of the report and looks each one up in the baseline (`compare_joins`).  So the
order of the deltas is that of the report alone; the order of the baseline matters only where a workload is in it
twice.
-/
namespace BenchSuite.SuiteReport

/-- A result is the first one of its workload in a report. -/
def IsFirst (r : SuiteReport) (t : Timing) : Prop :=
  ∃ before after, r.results = before ++ t :: after ∧ ∀ t' ∈ before, t'.tag ≠ t.tag

/-- **A delta joins two results** of one workload. -/
structure Joins (d : TimingDelta) (old now : Timing) : Prop where
  same : old.tag = now.tag
  tag : d.tag = now.tag
  baselineMs : d.baselineMs = old.averageMs
  currentMs : d.currentMs = now.averageMs

variable {r baseline baseline' : SuiteReport} {t : Timing} {ts : List Timing}

theorem same_text_iff {t' : Timing} : t'.tag.text = t.tag.text ↔ t'.tag = t.tag :=
  ⟨fun h => WorkloadTag.text_injective h, congrArg _⟩

theorem find?_eq_some_iff {old : Timing} : r.find? t.tag.text = some old ↔ r.IsFirst old ∧ old.tag = t.tag := by
  rw [find?, List.find?_eq_some_iff_append, beq_iff_eq, same_text_iff]
  constructor
  · rintro ⟨same, before, after, split, others⟩
    refine ⟨⟨before, after, split, fun t' h => ?_⟩, same⟩
    rw [same, ne_eq, ← same_text_iff]
    simpa using others t' h
  · rintro ⟨⟨before, after, split, others⟩, same⟩
    refine ⟨same, before, after, split, fun t' h => ?_⟩
    have other := others t' h
    rw [same, ne_eq, ← same_text_iff] at other
    simpa using other

theorem find?_eq_none_iff : r.find? t.tag.text = none ↔ t.tag ∉ r.results.map (·.tag) := by
  rw [find?, List.find?_eq_none]
  simp [same_text_iff]

theorem nodup_texts (once : (r.results.map (·.tag)).Nodup) : (r.results.map (·.tag.text)).Nodup := by
  have texts := once.map (f := WorkloadTag.text) fun _ _ => WorkloadTag.text_injective
  rwa [List.map_map] at texts

theorem find?_of_mem (once : (r.results.map (·.tag)).Nodup) (held : t ∈ r.results) : r.find? t.tag.text = some t :=
  (find?_key_eq_some (nodup_texts once)).2 ⟨held, rfl⟩

/-- The delta of one result, if there is one. -/
def deltaOf (baseline : SuiteReport) (now : Timing) : Option TimingDelta :=
  (baseline.find? now.tag.text).map fun old => ⟨now.tag, old.averageMs, now.averageMs⟩

theorem compare_eq (r baseline : SuiteReport) : r.compare baseline = r.results.filterMap (deltaOf baseline) := rfl

theorem joined (baseline : SuiteReport) : ∀ ts : List Timing,
    List.Forall₂ (fun now d => ∃ old, baseline.IsFirst old ∧ Joins d old now)
      (ts.filter (·.tag ∈ baseline.results.map (·.tag))) (ts.filterMap (deltaOf baseline))
  | [] => .nil
  | t :: ts => by
    cases found : baseline.find? t.tag.text with
    | none =>
      have skipped : deltaOf baseline t = none := by rw [deltaOf, found, Option.map_none]
      rw [List.filterMap_cons_none skipped, List.filter_cons_of_neg (by simpa using find?_eq_none_iff.1 found)]
      exact joined baseline ts
    | some old =>
      have delta : deltaOf baseline t = some ⟨t.tag, old.averageMs, t.averageMs⟩ := by rw [deltaOf, found, Option.map_some]
      obtain ⟨first, same⟩ := find?_eq_some_iff.1 found
      have held : t.tag ∈ baseline.results.map (·.tag) := by
        obtain ⟨before, after, split, -⟩ := first
        rw [← same, split]
        simp
      rw [List.filterMap_cons_some delta, List.filter_cons_of_pos (by simpa using held)]
      exact .cons ⟨old, first, same, rfl, rfl, rfl⟩ (joined baseline ts)

theorem deltaOf_congr (once : (baseline.results.map (·.tag)).Nodup)
    (same : ∀ t', t'.tag = t.tag → (t' ∈ baseline'.results ↔ t' ∈ baseline.results)) :
    deltaOf baseline' t = deltaOf baseline t := by
  have found : baseline'.find? t.tag.text = baseline.find? t.tag.text :=
    find?_key_congr (nodup_texts once) fun t' named => same t' (WorkloadTag.text_injective named)
  rw [deltaOf, deltaOf, found]

/-- **A comparison is a join that keeps the order of the report.**  Each result of a workload that the baseline has
gives one delta, with its average and that of the first result of the workload in the baseline; the other results give
none.  If the baseline has each workload once, its order is free, and so are further results in it, in any place, of
workloads that the report lacks.  And the deltas of two rows of results, one after the other, are those of the first
and then those of the second. -/
theorem compare_joins (r baseline : SuiteReport) :
    List.Forall₂ (fun now d => ∃ old, baseline.IsFirst old ∧ Joins d old now)
      (r.results.filter (·.tag ∈ baseline.results.map (·.tag))) (r.compare baseline) ∧
    ((baseline.results.map (·.tag)).Nodup → ∀ (baseline' : SuiteReport) (extra : List Timing),
      baseline'.results.Perm (baseline.results ++ extra) → (∀ t ∈ extra, t.tag ∉ r.results.map (·.tag)) →
        r.compare baseline' = r.compare baseline) ∧
    ∀ ts ts' : List Timing, compare { r with results := ts ++ ts' } baseline =
      compare { r with results := ts } baseline ++ compare { r with results := ts' } baseline := by
  refine ⟨joined baseline r.results, fun once baseline' extra perm new => ?_, fun ts ts' => ?_⟩
  · rw [compare_eq, compare_eq]
    refine List.filterMap_congr fun t held => deltaOf_congr once fun t' named => ?_
    have old : t' ∉ extra := fun h => new t' h (named ▸ List.mem_map_of_mem held)
    rw [perm.mem_iff, List.mem_append, or_iff_left old]
  · exact List.filterMap_append

/-- A report of single cycles of some workloads. -/
def ofTimes (times : List (Workload × Float)) : SuiteReport :=
  { start ⟨0, 0⟩ none with results := times.map fun (w, ms) => .ofTotal w.tag 0 1 ms (.flag true) }

/-- The report has a workload twice and another that the baseline lacks; the baseline, turned round and with a workload
that the report lacks, gives the same deltas. -/
theorem compare_joins_turned :
    let r := ofTimes [(.crc, 3.0), (.towers, 5.0), (.sieve, 1.5), (.crc, 4.0)]
    let baseline := ofTimes [(.sieve, 2.0), (.crc, 1.0)]
    let baseline' := ofTimes [(.bounce, 7.0), (.crc, 1.0), (.sieve, 2.0)]
    (baseline.results.map (·.tag)).Nodup ∧
      baseline'.results.Perm (baseline.results ++ (ofTimes [(.bounce, 7.0)]).results) ∧
      r.compare baseline' = r.compare baseline ∧
      (r.compare baseline').map (fun d => (d.tag, d.baselineMs, d.currentMs)) =
        [(Workload.crc.tag, 1.0, 3.0), (Workload.sieve.tag, 2.0, 1.5), (Workload.crc.tag, 1.0, 4.0)] := by
  intro r baseline baseline'
  have once : (baseline.results.map (·.tag)).Nodup := by decide
  have perm : baseline'.results.Perm (baseline.results ++ (ofTimes [(.bounce, 7.0)]).results) :=
    List.reverse_perm (baseline.results ++ (ofTimes [(.bounce, 7.0)]).results)
  obtain ⟨-, free, -⟩ := compare_joins r baseline
  refine ⟨once, perm, free once baseline' _ perm ?_, by decide +kernel⟩
  rw [ofTimes, List.map_singleton, List.forall_mem_singleton]
  decide

end BenchSuite.SuiteReport
