import BenchSuite.Proofs.Archive.Loading
/-!
# Reports that are kept apart

The name of a report is made from its start time cut off at the millisecond, so two reports have one path just
when they were started in the same millisecond (`path_eq_iff`).  A row of saves therefore keeps every report
that no later one of its millisecond replaces, and where no two share a millisecond it leaves a file for each
(`saves_keep_apart`).
-/
namespace BenchSuite

open Timestamp (SameMillisecond)

theorem Path.join_injective {dir n m : String} (h : join dir n = join dir m) : n = m := by
  have chars := congrArg String.toList h
  unfold join at chars
  apply String.toList_injective
  by_cases direct : dir = "" ∨ dir.toList.getLast? = some '/'
  · simpa [direct] using chars
  · simpa [direct] using chars

namespace Archive

variable {σ : Type} {fs : FileSystem (StateT σ Checked)} {dir : String}
  {At : σ → List String → (String → Option ByteArray) → Prop}

theorem path_eq_iff {m : Type → Type} (a : Archive m) {r q : SuiteReport} (hr : r.timestamp.Valid)
    (hq : q.timestamp.Valid) : path a r = path a q ↔ SameMillisecond r.timestamp q.timestamp := by
  rw [← SuiteReport.fileName_eq_iff_sameMillisecond hr hq]
  exact ⟨Path.join_injective, congrArg (Path.join a.dir)⟩

/-! ## The last report of a name -/

theorem lastNamed_eq_none {saved : List SuiteReport} {name : String} (h : ∀ r ∈ saved, r.fileName ≠ name) :
    lastNamed saved name = none := by
  rw [lastNamed, List.find?_eq_none]
  intro r hr same
  exact h r (List.mem_reverse.1 hr) (eq_of_beq same)

theorem lastNamed_split {before after : List SuiteReport} {r : SuiteReport}
    (later : ∀ q ∈ after, q.fileName ≠ r.fileName) : lastNamed (before ++ r :: after) r.fileName = some r := by
  unfold lastNamed
  rw [List.reverse_append, List.find?_append, List.reverse_cons, List.find?_append]
  have none := lastNamed_eq_none later
  rw [lastNamed] at none
  rw [none]
  simp

/-! ## Rows of saves -/

section

variable {s : σ} {names names' : List String} {files : String → Option ByteArray} {saved : List SuiteReport}
  {r : SuiteReport}

theorem read_last (keeps : fs.Keeps dir At) (after : At s names (heldAfter saved files))
    (valid : ∀ r ∈ saved, r.timestamp.Valid) {before later : List SuiteReport} (split : saved = before ++ r :: later)
    (apart : ∀ q ∈ later, ¬ SameMillisecond r.timestamp q.timestamp) :
    (fs.read (path ⟨fs, dir⟩ r)).run s = .ok (.ok r.savedText.toUTF8, s) := by
  subst split
  have validR := valid r (List.mem_append_right _ List.mem_cons_self)
  have named : lastNamed (before ++ r :: later) r.fileName = some r := by
    refine lastNamed_split fun q hq same => apart q hq ?_
    have validQ := valid q (List.mem_append_right _ (List.mem_cons_of_mem _ hq))
    exact (SuiteReport.fileName_eq_iff_sameMillisecond validR validQ).1 same.symm
  exact keeps.reads after (by rw [heldAfter, named]; rfl)

theorem read_kept (keeps : fs.Keeps dir At) (after : At s names (heldAfter saved files))
    (valid : ∀ r ∈ saved, r.timestamp.Valid) (validR : r.timestamp.Valid)
    (apart : ∀ q ∈ saved, ¬ SameMillisecond r.timestamp q.timestamp) {bytes : ByteArray}
    (held : files r.fileName = some bytes) : (fs.read (path ⟨fs, dir⟩ r)).run s = .ok (.ok bytes, s) := by
  have unnamed : lastNamed saved r.fileName = none := lastNamed_eq_none fun q hq same =>
    apart q hq ((SuiteReport.fileName_eq_iff_sameMillisecond validR (valid q hq)).1 same.symm)
  exact keeps.reads after (by rw [heldAfter, unnamed, held]; rfl)

theorem mem_paths_after (listed : ∀ n, n ∈ names' ↔ n ∈ names ∨ ∃ r ∈ saved, r.fileName = n) (p : String) :
    p ∈ (reportNames names').map (Path.join dir) ↔
      p ∈ (reportNames names).map (Path.join dir) ∨ p ∈ saved.map (path ⟨fs, dir⟩) := by
  simp only [List.mem_map, mem_reportNames_after listed]
  constructor
  · rintro ⟨n, old | ⟨r, hr, rfl⟩, rfl⟩
    · exact .inl ⟨n, old, rfl⟩
    · exact .inr ⟨r, hr, rfl⟩
  · rintro (⟨n, old, rfl⟩ | ⟨r, hr, rfl⟩)
    · exact ⟨n, .inl old, rfl⟩
    · exact ⟨r.fileName, .inr ⟨r, hr, rfl⟩, rfl⟩

theorem list_run_nil (keeps : fs.Keeps dir At) (start : At s names files)
    (others : ∀ n ∈ names, isReportName n = false) : (list ⟨fs, dir⟩).run s = .ok (.ok [], s) := by
  rw [list_run keeps start, reportNames_eq_nil others]
  rfl

theorem nodup_paths (valid : ∀ r ∈ saved, r.timestamp.Valid)
    (apart : saved.Pairwise fun r q => ¬ SameMillisecond r.timestamp q.timestamp) :
    (saved.map (path ⟨fs, dir⟩)).Nodup := by
  rw [List.Nodup, List.pairwise_map]
  exact apart.imp_of_mem fun hr hq other same => other ((path_eq_iff _ (valid _ hr) (valid _ hq)).1 same)

end

/-- **No report is lost to one of another millisecond.**  Two reports have one path just when they were started in the
same millisecond.  So in a directory that keeps what is written, a row of saves leaves a file alone unless a report of
its millisecond is saved after it, whether the file was there before or is one of the row, and adds just the paths of
the row to what is listed.  If no two reports of the row share a millisecond, each has a file of its own. -/
theorem saves_keep_apart (keeps : fs.Keeps dir At) {s : σ} {names : List String} {files : String → Option ByteArray}
    (start : At s names files) (saved : List SuiteReport) (valid : ∀ r ∈ saved, r.timestamp.Valid)
    (free : ∀ r ∈ saved, r.fileName ∈ names → ∃ bytes, files r.fileName = some bytes) :
    (∀ r q : SuiteReport, r.timestamp.Valid → q.timestamp.Valid →
      (path ⟨fs, dir⟩ r = path ⟨fs, dir⟩ q ↔ SameMillisecond r.timestamp q.timestamp)) ∧
    ∃ (s' : σ) (old paths : List String),
      (saved.mapM (save ⟨fs, dir⟩)).run s = .ok (saved.map fun r => .ok (path ⟨fs, dir⟩ r), s') ∧
      (∀ before r after, saved = before ++ r :: after → (∀ q ∈ after, ¬ SameMillisecond r.timestamp q.timestamp) →
        (fs.read (path ⟨fs, dir⟩ r)).run s' = .ok (.ok r.savedText.toUTF8, s')) ∧
      (∀ r : SuiteReport, r.timestamp.Valid → (∀ q ∈ saved, ¬ SameMillisecond r.timestamp q.timestamp) →
        ∀ bytes, files r.fileName = some bytes → (fs.read (path ⟨fs, dir⟩ r)).run s' = .ok (.ok bytes, s')) ∧
      (list ⟨fs, dir⟩).run s = .ok (.ok old, s) ∧ (list ⟨fs, dir⟩).run s' = .ok (.ok paths, s') ∧ paths.Nodup ∧
      (∀ p, p ∈ paths ↔ p ∈ old ∨ p ∈ saved.map (path ⟨fs, dir⟩)) ∧
      ((saved.Pairwise fun r q => ¬ SameMillisecond r.timestamp q.timestamp) →
        (saved.map (path ⟨fs, dir⟩)).Nodup ∧
        (∀ r ∈ saved, (fs.read (path ⟨fs, dir⟩ r)).run s' = .ok (.ok r.savedText.toUTF8, s')) ∧
        (old = [] → paths.length = saved.length)) := by
  refine ⟨fun r q hr hq => path_eq_iff _ hr hq, ?_⟩
  obtain ⟨s', names', run, after, listed⟩ := saves_run keeps saved start
    (fun r hr => SuiteReport.isName_fileName (valid r hr)) free
  have once : ((reportNames names').map (Path.join dir)).Nodup :=
    ((pairwise_reportNames (keeps.lists after).1).imp String.ne_of_lt).map _ fun _ _ ne same =>
      ne (Path.join_injective same)
  have members : ∀ p, p ∈ (reportNames names').map (Path.join dir) ↔
      p ∈ (reportNames names).map (Path.join dir) ∨ p ∈ saved.map (path ⟨fs, dir⟩) := mem_paths_after listed
  refine ⟨s', _, _, run, fun before r later split => read_last keeps after valid split,
    fun r hr apart bytes => read_kept keeps after valid hr apart, list_run keeps start, list_run keeps after, once,
    members, fun apart => ⟨nodup_paths valid apart, fun r hr => ?_, fun none => ?_⟩⟩
  · obtain ⟨before, later, rfl⟩ := List.append_of_mem hr
    exact read_last keeps after valid rfl (List.pairwise_cons.1 (List.pairwise_append.1 apart).2.1).1
  · have same : ((reportNames names').map (Path.join dir)).Perm (saved.map (path ⟨fs, dir⟩)) := by
      refine (List.perm_ext_iff_of_nodup once (nodup_paths valid apart)).2 fun p => ?_
      rw [members, none]
      simp
    rw [same.length_eq, List.length_map]

/-- A leap second, the second after it and a year of five digits have a file each. -/
theorem saves_keep_apart_leap_second :
    let archive : Archive MachineM := ⟨Machine.fileSystem, "reports"⟩
    let saved := [SuiteReport.start ⟨1483228799, 1500000000⟩ none, .start ⟨1483228800, 500000000⟩ none,
      .start ⟨253402300800, 0⟩ none]
    ∃ (s' : Machine) (paths : List String),
      (saved.mapM (save archive)).run desk = .ok (saved.map fun r => .ok (path archive r), s') ∧
      (list archive).run s' = .ok (.ok paths, s') ∧ paths.length = 3 ∧
      ∀ r ∈ saved, (archive.files.read (path archive r)).run s' = .ok (.ok r.savedText.toUTF8, s') := by
  intro archive saved
  have valid : ∀ r ∈ saved, r.timestamp.Valid := by decide
  have apart : saved.Pairwise fun r q => ¬ SameMillisecond r.timestamp q.timestamp := by decide
  have keeps := Machine.fileSystem_keeps (show "reports".utf8ByteSize ≤ 3839 by decide)
  obtain ⟨-, s', old, paths, run, -, -, before, listed, -, -, all⟩ :=
    saves_keep_apart keeps holds_desk saved valid fun r _ => free_desk r
  obtain ⟨-, held, many⟩ := all apart
  rw [list_run_nil keeps holds_desk (by decide)] at before
  obtain rfl : [] = old := Except.ok.inj (congrArg Prod.fst (Except.ok.inj before))
  exact ⟨s', paths, run, listed, many rfl, held⟩

/-- Not every two reports that were started at different times have different paths. -/
theorem not_every_start_has_a_path : ¬ ∀ (dir : String) (r q : SuiteReport), r.timestamp ≠ q.timestamp →
    path (⟨Machine.fileSystem, dir⟩ : Archive MachineM) r ≠ path ⟨Machine.fileSystem, dir⟩ q := by
  intro all
  refine all "reports" (.start ⟨1735787045, 0⟩ none) (.start ⟨1735787045, 1⟩ none) (by decide) ?_
  rw [path_eq_iff _ (by decide) (by decide)]
  decide

end Archive
end BenchSuite
