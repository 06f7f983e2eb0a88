import BenchSuite.Proofs.Command.Agreement
import BenchSuite.Proofs.Registry.Calls
import BenchSuite.Proofs.Table.Cells
/-!
# The shape of tables

A command that has its run plan goes by a sound registry (`Machine.plan_sound`), and every workload in a sound registry
fits its row: there are twelve at most, their tags and descriptions are those of the suite, and their counts have
seven digits at most.  So all lines of the list are equally wide, and so are those of a summary as long as the average
times fit their column (`tables_keep_shape`).
-/
namespace BenchSuite

/-! ## Registries that commands go by -/

/-- A run plan that is applied leaves a sound registry. -/
theorem Registry.Sound.of_planned {config : Option Config} {r : Registry} (h : Registry.planned config = .ok r) :
    r.Sound := by
  cases config with
  | none =>
    obtain rfl := Except.ok.inj h
    exact .builtin
  | some config =>
    have sound := Registry.Sound.builtin.apply config.overrides
    unfold Registry.planned at h
    dsimp only at h
    split at h
    · rename_i applied
      rw [applied] at sound
      obtain rfl := Except.ok.inj h
      exact sound
    · cases h

namespace Machine

open CommandM

variable {m m' : Machine} {path : Option String} {config : Option Config} {registry : Registry}

theorem plan_sound (h : (host.plan path).on m = .ok (.ok (config, registry), m')) : m' = m ∧ registry.Sound := by
  obtain ⟨answer, found⟩ := (asks_find path).exists_run m
  cases answer with
  | error e =>
    rw [plan_of_error found] at h
    cases h
  | ok config' =>
    rw [plan_of_ok found] at h
    obtain ⟨answered, rfl⟩ := Prod.mk.inj (Except.ok.inj h)
    cases planned : Registry.planned config' with
    | error e =>
      rw [planned] at answered
      cases answered
    | ok r =>
      rw [planned] at answered
      obtain ⟨-, rfl⟩ := Prod.mk.inj (Except.ok.inj answered)
      exact ⟨rfl, .of_planned planned⟩

end Machine

namespace Table

/-! ## The list -/

/-- The box of the list, its rows among its lines. -/
def listBox (r : Registry) : List String :=
  [top listWidths, listHeader, separator listWidths] ++ r.workloads.mapIdx listRow ++ [bottom listWidths]

/-- A tag and a description that fit the list. -/
def Fits (w : Workload) : Prop := w.tag.text.length ≤ 14 ∧ w.description.length ≤ 58

instance (w : Workload) : Decidable (Fits w) := inferInstanceAs (Decidable (_ ∧ _))

theorem fits_suite : ∀ w ∈ Workload.suite, Fits w := by decide +kernel

theorem fits_of_sound {r : Registry} (sound : r.Sound) {w : Workload} (held : w ∈ r.workloads) : Fits w := by
  obtain ⟨v, found, same⟩ := sound.get_builtin held
  rw [same]
  exact fits_suite v (Registry.get_eq_ok found).1

theorem length_listRow {index : Nat} {w : Workload} (few : index < 1000) (fits : Fits w)
    (warm : w.plan.warmup ≤ maxRepetitions) : (listRow index w).length = listHeader.length := by
  have position : (toString index).length ≤ 3 := (Nat.length_repr_le_iff (by decide)).2 few
  refine length_row_congr ?_
  simp only [List.map_cons, List.map_nil, length_left position, length_left fits.1, length_left fits.2,
    length_right (length_count_le warm), length_right (length_count_le w.plan.cycles.le_max)]
  decide

theorem length_listRule {start middle stop : String} (first : start.length = 1) (inner : middle.length = 1)
    (last : stop.length = 1) : (rule start middle stop listWidths).length = listHeader.length := by
  have rules := length_rule first inner last (List.cons_ne_nil (left 3 "#")
    [left 14 "Tag", left 7 "Warm-up", left 7 "Cycles", left 58 "Description"])
  have widths : [left 3 "#", left 14 "Tag", left 7 "Warm-up", left 7 "Cycles", left 58 "Description"].map
      String.length = listWidths := by
    simp only [List.map_cons, List.map_nil, length_left (show "#".length ≤ 3 by decide),
      length_left (show "Tag".length ≤ 14 by decide), length_left (show "Warm-up".length ≤ 7 by decide),
      length_left (show "Cycles".length ≤ 7 by decide), length_left (show "Description".length ≤ 58 by decide)]
    rfl
  rwa [widths] at rules

theorem length_listBox {r : Registry} (sound : r.Sound) : ∀ line ∈ listBox r, line.length = listHeader.length := by
  have sizes : r.workloads.length ≤ 12 := by
    have sub := sound.suite.length_le
    rwa [List.length_map, List.length_map] at sub
  have rows : ∀ line ∈ r.workloads.mapIdx listRow, line.length = listHeader.length := by
    intro line written
    obtain ⟨i, inside, rfl⟩ := List.mem_mapIdx.1 written
    have held := List.getElem_mem inside
    exact length_listRow (by omega) (fits_of_sound sound held) (sound.warmup_le _ held)
  intro line written
  simp only [listBox, List.mem_append, List.mem_cons, List.not_mem_nil, or_false] at written
  rcases written with ((rfl | rfl | rfl) | row) | rfl
  · exact length_listRule rfl rfl rfl
  · rfl
  · exact length_listRule rfl rfl rfl
  · exact rows line row
  · exact length_listRule rfl rfl rfl

/-! ## The summary -/

theorem length_outcomeCell (o : Outcome) : ∃ cell, outcomeCell o = .ok cell ∧ cell.length = 22 :=
  ⟨_, outcomeCell_eq o, length_left (length_shortened o)⟩

theorem length_summaryRow {t : Timing} (tag : t.tag.text.length ≤ 14) (warm : t.warmup ≤ maxRepetitions)
    (count : t.cycles ≤ maxRepetitions) (average : (durationText t.averageMs).length ≤ 14) :
    ∃ line, summaryRow t = .ok line ∧ line.length = summaryHeader.length := by
  obtain ⟨cell, shown, width⟩ := length_outcomeCell t.outcome
  refine ⟨_, by rw [summaryRow, shown]; rfl, length_row_congr ?_⟩
  simp only [List.map_cons, List.map_nil, length_left tag, length_right (length_count_le warm),
    length_right (length_count_le count), length_right average, width]
  decide

end Table

namespace Machine

open CommandM Table

variable {m m' : Machine} {path : Option String}

/-- A command that lists the workloads prints a box of equally wide lines. -/
theorem list_shape (listed : (host.list path).on m = .ok (.ok (), m')) :
    ∃ r : Registry, m'.output = m.output ++ listBox r ++ ["", "Total: " ++ toString r.size ++ " workload(s)"] ∧
      ∀ line ∈ listBox r, line.length = listHeader.length := by
  rcases on_bind_eq_ok listed with ⟨⟨config, r⟩, m₁, planned, -⟩ | ⟨e, -, failed⟩
  · obtain ⟨rfl, sound⟩ := plan_sound planned
    rw [list_run planned] at listed
    obtain ⟨-, rfl⟩ := Prod.mk.inj (Except.ok.inj listed)
    refine ⟨r, ?_, length_listBox sound⟩
    simp only [listing, listBox, Lines.list_eq, List.append_assoc]
    rfl
  · cases failed

/-- **Tables keep their shape.**  A run-plan file that is valid can be listed, and the list, under whatever run plan, is
a box of lines as wide as its header.  The cell of an outcome is filled up or cut to 22 characters, and a cut within a
character, which has no answer, is never made.  With counts that a plan may hold, a built-in tag and a short average
time, the row of a result is as wide as the header of the summary. -/
theorem tables_keep_shape :
    (∀ (m : Machine) (path : Option String) (file : String),
      (∃ m', (host.perform path (.validate file)).on m = .ok (.ok (), m')) →
      ∃ m', (host.perform (some file) .list).on m = .ok (.ok (), m')) ∧
    (∀ (m m' : Machine) (path : Option String), (host.perform path .list).on m = .ok (.ok (), m') →
      ∃ r : Registry, m'.output = m.output ++ listBox r ++ ["", "Total: " ++ toString r.size ++ " workload(s)"] ∧
        ∀ line ∈ listBox r, line.length = listHeader.length) ∧
    (∀ o : Outcome, ∃ cell, outcomeCell o = .ok cell ∧ cell.length = 22) ∧
    ∀ (t : Timing) (plan : RunPlan), RunPlan.ofCounts t.warmup t.cycles = .ok plan → t.tag ∈ Registry.builtin.tags →
      (durationText t.averageMs).length ≤ 14 → ∃ line, summaryRow t = .ok line ∧ line.length = summaryHeader.length := by
  refine ⟨fun m path file valid => lists_iff.2 (validates_iff.1 valid), fun m m' path listed => list_shape listed,
    length_outcomeCell, fun t plan counted known average => ?_⟩
  obtain ⟨warm, -, count⟩ := RunPlan.ofCounts_eq_ok.1 counted
  obtain ⟨w, builtin, tag⟩ := Registry.mem_tags.1 known
  refine length_summaryRow ?_ warm ?_ average
  · rw [← tag]
    exact (fits_suite w builtin).1
  · rw [← count]
    exact plan.cycles.le_max

/-- A scalar whose text is longer than its cell. -/
def smallScalar : Timing := ⟨Workload.nbody.tag, 0, 1000000, 1.5, 1.5, .scalar (-2.2250738585072014e-308)⟩

/-- The valid run plan on the desk is listed in shape; and the row of a scalar that is cut fits. -/
theorem tables_keep_shape_plannedDesk :
    (∃ m' r, (host.perform (some "plan.yaml") .list).on plannedDesk = .ok (.ok (), m') ∧
      m'.output = listBox r ++ ["", "Total: " ++ toString r.size ++ " workload(s)"] ∧
      ∀ line ∈ listBox r, line.length = listHeader.length) ∧
    outcomeCell smallScalar.outcome = .ok "-2.2250738585072014..." ∧
    ∃ line, summaryRow smallScalar = .ok line ∧ line.length = summaryHeader.length := by
  obtain ⟨valid, shape, -, rows⟩ := tables_keep_shape
  obtain ⟨m', listed⟩ := valid plannedDesk none "plan.yaml" (validates_iff.2 ⟨_, holdsPlan_plannedDesk⟩)
  obtain ⟨r, output, wide⟩ := shape _ _ _ listed
  refine ⟨⟨m', r, listed, output, wide⟩, ?_, ?_⟩
  · decide +kernel
  · exact rows smallScalar ⟨0, ⟨1000000, by decide, by decide⟩⟩ rfl (by decide +kernel) (by decide +kernel)

end Machine
end BenchSuite
