import Mathlib.Data.List.Sort
import Mathlib.Data.String.Basic
import BenchSuite.Proofs.Archive.Saving
import BenchSuite.Proofs.Files.Directory
import BenchSuite.Proofs.Timestamp.Naming
/-!
# Reports in time order

The names of reports have one width and sort as their stamps do, so sorting the names sorts the reports by
time.  After any row of saves the archive lists one path for each millisecond at which a report was
started, the oldest first, and its latest report is what loading the last of these files gives
(`list_after_saves`).
-/
namespace BenchSuite

open Decimal
open Timestamp (field Stamped)

/-! ## Names of reports -/

namespace SuiteReport

variable {r q : SuiteReport}

theorem toList_fileName (r : SuiteReport) :
    r.fileName.toList = "suite_".toList ++ (r.timestamp.fileStamp.toList ++ ".json".toList) := by
  rw [fileName, String.toList_append, String.toList_append, List.append_assoc]

theorem isReportName_fileName (r : SuiteReport) : isReportName r.fileName = true := by
  unfold isReportName
  rw [toList_fileName, Bool.and_eq_true, List.isPrefixOf_iff_prefix, List.isSuffixOf_iff_suffix,
    ← List.append_assoc]
  refine ⟨?_, List.suffix_append _ _⟩
  rw [List.append_assoc]
  exact List.prefix_append _ _

theorem fileName_lt (hr : r.timestamp.Stamped) (hq : q.timestamp.Stamped)
    (h : r.timestamp.milliseconds < q.timestamp.milliseconds) : r.fileName < q.fileName := by
  rw [String.lt_iff, toList_fileName, toList_fileName]
  refine List.append_left_lt (Timestamp.append_lt_of_lt _ _ ?_ ?_)
  · rw [hr.length_fileStamp, hq.length_fileStamp]
  · exact Timestamp.fileStamp_lt hr hq h

/-- **Two reports have one name just when they were started in the same millisecond.** -/
theorem fileName_eq_iff_sameMillisecond (hr : r.timestamp.Valid) (hq : q.timestamp.Valid) :
    r.fileName = q.fileName ↔ Timestamp.SameMillisecond r.timestamp q.timestamp := by
  rw [← Timestamp.fileStamp_eq_iff hr.nanos_lt hq.nanos_lt]
  constructor
  · intro h
    have chars := congrArg String.toList h
    rw [toList_fileName, toList_fileName] at chars
    exact String.toList_injective (List.append_cancel_right (List.append_cancel_left chars))
  · intro h
    rw [fileName, fileName, h]

theorem fileName_eq_iff (hr : r.timestamp.Stamped) (hq : q.timestamp.Stamped) :
    r.fileName = q.fileName ↔ r.timestamp.milliseconds = q.timestamp.milliseconds := by
  rw [fileName_eq_iff_sameMillisecond hr.valid hq.valid, hr.sameMillisecond_iff hq]

theorem milliseconds_lt_of_fileName_lt (hr : r.timestamp.Stamped) (hq : q.timestamp.Stamped)
    (h : r.fileName < q.fileName) : r.timestamp.milliseconds < q.timestamp.milliseconds := by
  rcases Int.lt_trichotomy r.timestamp.milliseconds q.timestamp.milliseconds with less | same | more
  · exact less
  · rw [(fileName_eq_iff hr hq).2 same] at h
    exact absurd h (String.lt_irrefl _)
  · exact absurd (String.lt_trans h (fileName_lt hq hr more)) (String.lt_irrefl _)

theorem utf8Len_le (cs : List Char) : String.utf8Len cs ≤ 4 * cs.length := by
  induction cs with
  | nil => exact Nat.le_refl 0
  | cons c cs ih =>
    have := c.utf8Size_le_four
    rw [String.utf8Len_cons, List.length_cons]
    omega

theorem mem_fileName {c : Char} (h : c ∈ r.fileName.toList) :
    (Timestamp.isStampChar c = true ∨ c = '+') ∨ c ∈ "suite_".toList ∨ c ∈ ".json".toList := by
  rw [toList_fileName, List.mem_append, List.mem_append] at h
  rcases h with front | stamp | back
  · exact .inr (.inl front)
  · exact .inl (r.timestamp.all_fileStamp c stamp)
  · exact .inr (.inr back)

theorem no_slash_fileName (r : SuiteReport) : '/' ∉ r.fileName.toList :=
  fun slash => absurd (mem_fileName slash) (by decide)

theorem length_fileName (r : SuiteReport) :
    r.fileName.toList.length = 11 + r.timestamp.fileStamp.toList.length := by
  rw [toList_fileName, List.length_append, List.length_append, Nat.add_left_comm, Nat.add_comm]
  rfl

theorem leads_fileName (r : SuiteReport) : r.fileName ≠ "" ∧ r.fileName ≠ "." ∧ r.fileName ≠ ".." := by
  have long : ∀ s : String, s.toList.length < 11 → r.fileName ≠ s := by
    rintro s short rfl
    rw [length_fileName] at short
    omega
  exact ⟨long _ (by decide), long _ (by decide), long _ (by decide)⟩

theorem isName_fileName (h : r.timestamp.Valid) : Path.IsName r.fileName := by
  refine ⟨r.no_slash_fileName, fun nul => absurd (mem_fileName nul) (by decide), r.leads_fileName, ?_⟩
  have := utf8Len_le r.fileName.toList
  have := h.length_fileStamp_le
  rw [length_fileName] at *
  rw [← String.utf8ByteSize_ofList, String.ofList_toList] at *
  omega

end SuiteReport

/-! ## What is listed -/

theorem mem_reportNames {names : List String} {n : String} :
    n ∈ reportNames names ↔ n ∈ names ∧ isReportName n = true := by
  rw [reportNames, List.mem_mergeSort, List.mem_filter]

theorem reportNames_eq_nil {names : List String} (others : ∀ n ∈ names, isReportName n = false) :
    reportNames names = [] := by
  refine List.eq_nil_iff_forall_not_mem.2 fun n hn => ?_
  obtain ⟨member, report⟩ := mem_reportNames.1 hn
  rw [others n member] at report
  cases report

/-- **The names of reports are listed in order**, each once. -/
theorem pairwise_reportNames {names : List String} (once : names.Nodup) :
    (reportNames names).Pairwise (· < ·) := by
  have sorted : (reportNames names).Pairwise (fun a b => decide (a ≤ b) = true) := by
    refine List.pairwise_mergeSort (fun a b c hab hbc => ?_) (fun a b => ?_) _
    · exact decide_eq_true (String.le_trans (of_decide_eq_true hab) (of_decide_eq_true hbc))
    · rw [Bool.or_eq_true, decide_eq_true_eq, decide_eq_true_eq]
      exact String.le_total a b
  have apart : (reportNames names).Nodup :=
    (List.mergeSort_perm _ _).nodup_iff.2 (once.filter _)
  refine List.Pairwise.imp₂ (fun a b hab hne => ?_) sorted apart
  exact lt_of_le_of_ne (of_decide_eq_true hab) hne

namespace Archive

variable {σ : Type} {fs : FileSystem (StateT σ Checked)} {dir : String}
  {At : σ → List String → (String → Option ByteArray) → Prop}

theorem list_run (keeps : fs.Keeps dir At) {s : σ} {names : List String} {files : String → Option ByteArray}
    (h : At s names files) :
    (list ⟨fs, dir⟩).run s = .ok (.ok ((reportNames names).map (Path.join dir)), s) :=
  run_bind_ok (keeps.lists h).2

theorem latest_run_none {s : σ} (h : (list ⟨fs, dir⟩).run s = .ok (.ok [], s)) :
    (latest ⟨fs, dir⟩).run s = .ok (.ok none, s) :=
  run_bind_ok h

theorem latest_run_some {s : σ} {paths : List String} {last : String} {answer : Except ReportError SuiteReport}
    (h : (list ⟨fs, dir⟩).run s = .ok (.ok paths, s)) (hl : paths.getLast? = some last)
    (loaded : (load fs last).run s = .ok (answer, s)) :
    (latest ⟨fs, dir⟩).run s = .ok (answer.map some, s) := by
  refine (run_bind_ok h).trans ?_
  simp only [hl]
  refine (run_bind_ok loaded).trans ?_
  cases answer <;> rfl

/-- No later report of the row was started in the same millisecond. -/
def LastOf (saved : List SuiteReport) (r : SuiteReport) : Prop :=
  ∃ before after, saved = before ++ r :: after ∧
    ∀ q ∈ after, q.timestamp.milliseconds ≠ r.timestamp.milliseconds

theorem exists_lastNamed {saved : List SuiteReport} {r : SuiteReport} (h : r ∈ saved) :
    ∃ q, lastNamed saved r.fileName = some q := by
  have found : (lastNamed saved r.fileName).isSome = true := by
    rw [lastNamed, List.find?_isSome]
    exact ⟨r, List.mem_reverse.2 h, beq_self_eq_true _⟩
  exact Option.isSome_iff_exists.1 found

theorem lastNamed_eq_some {saved : List SuiteReport} {name : String} {r : SuiteReport}
    (h : lastNamed saved name = some r) : r.fileName = name ∧
      ∃ before after, saved = before ++ r :: after ∧ ∀ q ∈ after, q.fileName ≠ name := by
  obtain ⟨named, front, back, split, later⟩ := List.find?_eq_some_iff_append.1 h
  refine ⟨eq_of_beq named, back.reverse, front.reverse, ?_, fun q hq same => ?_⟩
  · have := congrArg List.reverse split
    rw [List.reverse_reverse, List.reverse_append, List.reverse_cons, List.append_assoc] at this
    exact this
  · have := later q (List.mem_reverse.1 hq)
    rw [same, beq_self_eq_true] at this
    exact absurd this (by decide)

/-- The last reports of a row, one for each of the names. -/
def lasts (saved : List SuiteReport) (names : List String) : List SuiteReport :=
  names.filterMap (lastNamed saved)

theorem map_lasts {saved : List SuiteReport} : ∀ {names : List String},
    (∀ n ∈ names, ∃ r ∈ saved, r.fileName = n) → (lasts saved names).map (·.fileName) = names
  | [], _ => rfl
  | n :: names, h => by
    obtain ⟨r, hr, rfl⟩ := h n List.mem_cons_self
    obtain ⟨q, hq⟩ := exists_lastNamed hr
    have rest := map_lasts fun n hn => h n (List.mem_cons_of_mem _ hn)
    rw [lasts, List.filterMap_cons_some hq, List.map_cons, (lastNamed_eq_some hq).1]
    exact congrArg _ rest

theorem mem_lasts {saved : List SuiteReport} {names : List String} {r : SuiteReport} (h : r ∈ lasts saved names) :
    r.fileName ∈ names ∧ lastNamed saved r.fileName = some r := by
  obtain ⟨n, hn, hr⟩ := List.mem_filterMap.1 h
  obtain ⟨rfl, -⟩ := lastNamed_eq_some hr
  exact ⟨hn, hr⟩

theorem mem_of_lastNamed {saved : List SuiteReport} {name : String} {r : SuiteReport}
    (h : lastNamed saved name = some r) : r ∈ saved :=
  List.mem_reverse.1 (List.mem_of_find?_eq_some h)

/-- The names of reports after a row of saves. -/
theorem mem_reportNames_after {saved : List SuiteReport} {names names' : List String}
    (listed : ∀ n, n ∈ names' ↔ n ∈ names ∨ ∃ r ∈ saved, r.fileName = n) (n : String) :
    n ∈ reportNames names' ↔ n ∈ reportNames names ∨ ∃ r ∈ saved, r.fileName = n := by
  rw [mem_reportNames, mem_reportNames, listed]
  constructor
  · rintro ⟨old | new, report⟩
    · exact .inl ⟨old, report⟩
    · exact .inr new
  · rintro (⟨old, report⟩ | ⟨r, hr, rfl⟩)
    · exact ⟨.inl old, report⟩
    · exact ⟨.inr ⟨r, hr, rfl⟩, SuiteReport.isReportName_fileName r⟩

section

variable {saved : List SuiteReport} {names : List String} (stamped : ∀ r ∈ saved, r.timestamp.Stamped)
include stamped

theorem pairwise_lasts (each : ∀ n ∈ names, ∃ r ∈ saved, r.fileName = n) (sorted : names.Pairwise (· < ·)) :
    ((lasts saved names).map fun r => r.timestamp.milliseconds).Pairwise (· < ·) := by
  rw [← map_lasts each, List.pairwise_map] at sorted
  rw [List.pairwise_map]
  exact sorted.imp_of_mem fun hr hq less => SuiteReport.milliseconds_lt_of_fileName_lt
    (stamped _ (mem_of_lastNamed (mem_lasts hr).2)) (stamped _ (mem_of_lastNamed (mem_lasts hq).2)) less

theorem mem_milliseconds_lasts (all : ∀ r ∈ saved, r.fileName ∈ names) (t : Int) :
    t ∈ (lasts saved names).map (fun r => r.timestamp.milliseconds) ↔
      t ∈ saved.map (fun r => r.timestamp.milliseconds) := by
  rw [List.mem_map, List.mem_map]
  constructor
  · rintro ⟨r, hr, rfl⟩
    exact ⟨r, mem_of_lastNamed (mem_lasts hr).2, rfl⟩
  · rintro ⟨r, hr, rfl⟩
    obtain ⟨q, hq⟩ := exists_lastNamed hr
    have member : q ∈ lasts saved names := List.mem_filterMap.2 ⟨r.fileName, all r hr, hq⟩
    exact ⟨q, member, (SuiteReport.fileName_eq_iff (stamped q (mem_of_lastNamed hq)) (stamped r hr)).1
      (lastNamed_eq_some hq).1⟩

theorem lastOf_of_lastNamed {name : String} {r : SuiteReport} (h : lastNamed saved name = some r) : LastOf saved r := by
  obtain ⟨rfl, before, later, split, apart⟩ := lastNamed_eq_some h
  refine ⟨before, later, split, fun q hq same => apart q hq ?_⟩
  have member : q ∈ saved := split ▸ List.mem_append_right _ (List.mem_cons_of_mem _ hq)
  exact (SuiteReport.fileName_eq_iff (stamped q member) (stamped r (mem_of_lastNamed h))).2 same

end

/-- **Reports are listed in time order.**  In a directory that keeps what is written and holds no report at
first, a row of saves, in any order and with any other entries around, leaves one path for each millisecond
at which one of the reports was started, the oldest first; and the latest report is what loading the last of
these files gives, which holds the text of the report saved last for its millisecond. -/
theorem list_after_saves (keeps : fs.Keeps dir At) {s : σ} {names : List String}
    {files : String → Option ByteArray} (start : At s names files)
    (others : ∀ n ∈ names, isReportName n = false) (saved : List SuiteReport)
    (stamped : ∀ r ∈ saved, r.timestamp.Stamped) :
    ∃ (s' : σ) (kept : List SuiteReport),
      (saved.mapM (save ⟨fs, dir⟩)).run s = .ok (saved.map fun r => .ok (path ⟨fs, dir⟩ r), s') ∧
      (kept.map fun r => r.timestamp.milliseconds).Pairwise (· < ·) ∧
      (∀ t, t ∈ kept.map (fun r => r.timestamp.milliseconds) ↔ t ∈ saved.map (fun r => r.timestamp.milliseconds)) ∧
      (∀ r ∈ kept, LastOf saved r) ∧
      (list ⟨fs, dir⟩).run s' = .ok (.ok (kept.map (path ⟨fs, dir⟩)), s') ∧
      match kept.getLast? with
      | none => (latest ⟨fs, dir⟩).run s' = .ok (.ok none, s')
      | some r => (load fs (path ⟨fs, dir⟩ r)).run s' = .ok (answerTo r.savedText, s') ∧
          (latest ⟨fs, dir⟩).run s' = .ok ((answerTo r.savedText).map some, s') := by
  have named : ∀ r ∈ saved, Path.IsName r.fileName := fun r hr => SuiteReport.isName_fileName (stamped r hr).valid
  have free : ∀ r ∈ saved, r.fileName ∈ names → ∃ bytes, files r.fileName = some bytes := by
    intro r _ hn
    have := others _ hn
    rw [SuiteReport.isReportName_fileName] at this
    cases this
  obtain ⟨s', names', run, after, listed⟩ := saves_run keeps saved start named free
  have reports : ∀ n, n ∈ reportNames names' ↔ ∃ r ∈ saved, r.fileName = n := fun n => by
    rw [mem_reportNames_after listed, reportNames_eq_nil others]
    simp
  have each : ∀ n ∈ reportNames names', ∃ r ∈ saved, r.fileName = n := fun n hn => (reports n).1 hn
  have all : ∀ r ∈ saved, r.fileName ∈ reportNames names' := fun r hr => (reports _).2 ⟨r, hr, rfl⟩
  have sorted := pairwise_reportNames (keeps.lists after).1
  have paths : (list ⟨fs, dir⟩).run s' =
      .ok (.ok ((lasts saved (reportNames names')).map (path ⟨fs, dir⟩)), s') := by
    rw [list_run keeps after]
    conv => lhs; rw [← map_lasts each, List.map_map]
    rfl
  refine ⟨s', lasts saved (reportNames names'), run, pairwise_lasts stamped each sorted,
    mem_milliseconds_lasts stamped all, fun r hr => lastOf_of_lastNamed stamped (mem_lasts hr).2, paths, ?_⟩
  cases hl : (lasts saved (reportNames names')).getLast? with
  | none =>
    rw [List.getLast?_eq_none_iff.1 hl] at paths
    exact latest_run_none paths
  | some r =>
    have held : heldAfter saved files r.fileName = some r.savedText.toUTF8 := by
      rw [heldAfter, (mem_lasts (List.mem_of_getLast? hl)).2]
      rfl
    have loaded := load_run (keeps.reads after held)
    refine ⟨loaded, latest_run_some paths ?_ loaded⟩
    rw [List.getLast?_map, hl]
    rfl

/-- A machine with a directory for reports, where other files lie already. -/
def desk : Machine :=
  .fresh (.directory [("reports", .directory [("notes.txt", .file .empty), ("baseline.json", .file .empty)])]) []
    id ⟨0, 0⟩ ⟨"desk", "Linux", none, "cpu", 1, 1000, 1⟩

theorem holds_desk : Machine.Holds "reports" desk ["notes.txt", "baseline.json"] fun _ => none :=
  ⟨["reports"], [("notes.txt", .file .empty), ("baseline.json", .file .empty)],
    ⟨["reports"], by decide +kernel, by decide +kernel⟩, rfl, rfl, by decide, fun _ _ h => nomatch h⟩

/-- Of three reports, saved the latest first and two of them in one millisecond, two are listed, the oldest
first. -/
theorem list_after_saves_desk :
    let archive : Archive MachineM := ⟨Machine.fileSystem, "reports"⟩
    let saved := [SuiteReport.start ⟨2, 0⟩ none, .start ⟨1, 0⟩ none, .start ⟨1, 999⟩ none]
    ∃ (s' : Machine) (kept : List SuiteReport),
      (saved.mapM (save archive)).run desk = .ok (saved.map fun r => .ok (path archive r), s') ∧
      kept.map (fun r => r.timestamp.milliseconds) = [1000, 2000] ∧
      (list archive).run s' = .ok (.ok (kept.map (path archive)), s') := by
  intro archive saved
  have stamped : ∀ r ∈ saved, r.timestamp.Stamped := by
    simp only [saved, List.forall_mem_cons]
    refine ⟨?_, ?_, ?_, fun r h => nomatch h⟩
    all_goals exact ⟨by decide, by decide, by decide⟩
  obtain ⟨s', kept, run, ordered, members, -, listed, -⟩ :=
    list_after_saves (Machine.fileSystem_keeps (by decide)) holds_desk (by decide) saved stamped
  refine ⟨s', kept, run, ?_, listed⟩
  refine List.Pairwise.eq_of_mem_iff ordered (by decide) fun t => ?_
  rw [members]
  show t ∈ [2000, 1000, 1000] ↔ t ∈ [1000, 2000]
  simp only [List.mem_cons, List.not_mem_nil, or_false]
  omega

end Archive
end BenchSuite
