import BenchSuite.Proofs.Archive.Loading
import BenchSuite.Proofs.Json.Decimals
import BenchSuite.Proofs.Report.Comparing
/-!
# Times that come back

A time that is a decimal of at most fifteen digits is loaded as it was saved, whatever else is in the report
(`times_come_back`), and a report with such averages shows no change against its own copy.  Another time may come back
as its neighbour (`eleventh_comes_back_changed`).
-/
namespace BenchSuite

open Json (Short)

namespace Timing

/-- What of a timing is the same in the one that it is loaded as. -/
structure ComesBack (t t' : Timing) : Prop where
  tag : t'.tag = t.tag
  totalMs : Short t.totalMs → t'.totalMs = t.totalMs
  averageMs : Short t.averageMs → t'.averageMs = t.averageMs

theorem readBack?_eq_some_iff {t t' : Timing} : t.readBack? = some t' ↔ ∃ total average o,
    (Json.float t.totalMs).toFloat? = some total ∧ (Json.float t.averageMs).toFloat? = some average ∧
      t.outcome.readBack? = some o ∧ { t with totalMs := total, averageMs := average, outcome := o } = t' := by
  simp [readBack?, Option.bind_eq_some_iff]

theorem comesBack_of_readBack? {t t' : Timing} (back : t.readBack? = some t') : ComesBack t t' := by
  obtain ⟨total, average, o, read, read', -, rfl⟩ := readBack?_eq_some_iff.1 back
  refine ⟨rfl, fun short => ?_, fun short => ?_⟩
  · exact Option.some.inj (read.symm.trans (Json.toFloat?_float_of_short short))
  · exact Option.some.inj (read'.symm.trans (Json.toFloat?_float_of_short short))

theorem isSome_readBack?_of_short {t : Timing} (total : Short t.totalMs) (average : Short t.averageMs)
    (readable : t.outcome.readBack?.isSome = true) : t.readBack?.isSome = true := by
  obtain ⟨o, outcome⟩ := Option.isSome_iff_exists.1 readable
  exact Option.isSome_iff_exists.2 ⟨_, readBack?_eq_some_iff.2
    ⟨_, _, o, Json.toFloat?_float_of_short total, Json.toFloat?_float_of_short average, outcome, rfl⟩⟩

end Timing

theorem forall₂_of_mapM {α β : Type} {f : α → Option β} : ∀ {xs : List α} {ys : List β}, xs.mapM f = some ys →
    List.Forall₂ (fun x y => f x = some y) xs ys
  | [], _, h => by
    cases h
    exact .nil
  | x :: xs, ys, h => by
    rw [List.mapM_cons] at h
    obtain ⟨y, first, h⟩ := Option.bind_eq_some_iff.1 h
    obtain ⟨ys, others, h⟩ := Option.bind_eq_some_iff.1 h
    cases h
    exact .cons first (forall₂_of_mapM others)

namespace SuiteReport

theorem readBack?_of_stamped {r : SuiteReport} (stamped : r.timestamp.Stamped) :
    r.readBack? = (r.results.mapM Timing.readBack?).map fun ts => { r with results := ts } := by
  rw [readBack?, stamped.ofText?_text]
  exact Option.map_eq_bind.symm

/-- **A comparison sees the averages of a baseline only.** -/
theorem compare_congr (r : SuiteReport) {old old' : SuiteReport}
    (same : old'.results.map (fun t => (t.tag, t.averageMs)) = old.results.map fun t => (t.tag, t.averageMs)) :
    r.compare old' = r.compare old := by
  have view (s : SuiteReport) (tag : String) : (s.find? tag).map (fun t => (t.tag, t.averageMs)) =
      (s.results.map fun t => (t.tag, t.averageMs)).find? (·.1.text == tag) := by
    rw [List.find?_map]
    rfl
  have delta (s : SuiteReport) (t : Timing) :
      (s.find? t.tag.text).map (fun old => (⟨t.tag, old.averageMs, t.averageMs⟩ : TimingDelta)) =
        ((s.find? t.tag.text).map fun t => (t.tag, t.averageMs)).map fun old => ⟨t.tag, old.2, t.averageMs⟩ := by
    rw [Option.map_map]
    rfl
  unfold compare
  simp only [delta, view, same]

/-- A report without repeated workloads shows no change against itself. -/
theorem compare_self {r : SuiteReport} (apart : (r.results.map (·.tag)).Nodup) :
    r.compare r = r.results.map fun t => ⟨t.tag, t.averageMs, t.averageMs⟩ := by
  rw [compare, ← List.filterMap_eq_map]
  refine List.filterMap_congr fun t mem => ?_
  rw [find?_of_mem apart mem]
  rfl

theorem compare_comesBack {r r' : SuiteReport} (back : List.Forall₂ Timing.ComesBack r.results r'.results)
    (short : ∀ t ∈ r.results, Short t.averageMs) (now : SuiteReport) : now.compare r' = now.compare r := by
  refine now.compare_congr ?_
  generalize r.results = ts at back short
  generalize r'.results = ts' at back
  induction back with
  | nil => rfl
  | cons first _ ih =>
    obtain ⟨here, others⟩ := List.forall_mem_cons.1 short
    rw [List.map_cons, List.map_cons, ih others, first.tag, first.averageMs here]

end SuiteReport

namespace Archive

variable {σ : Type} {fs : FileSystem (StateT σ Checked)}

/-- **Short times come back from the archive as they were.**  A report that was saved and is loaded has, timing by
timing, the same total where that is short and the same average where that is; with short averages everything compares
with it as with the report that was saved, and the report itself, if no workload is in it twice, shows no change.  With
short times, and outcomes that can be read, it is loaded. -/
theorem times_come_back {r : SuiteReport} (stamped : r.timestamp.Stamped) {dir : String}
    {At : σ → List String → (String → Option ByteArray) → Prop} (keeps : fs.Keeps dir At) {s : σ} {names : List String}
    {files : String → Option ByteArray} (start : At s names files)
    (free : r.fileName ∈ names → ∃ bytes, files r.fileName = some bytes) :
    ∃ s', (save ⟨fs, dir⟩ r).run s = .ok (.ok (path ⟨fs, dir⟩ r), s') ∧
      (∀ r', (load fs (path ⟨fs, dir⟩ r)).run s' = .ok (.ok r', s') →
        List.Forall₂ Timing.ComesBack r.results r'.results ∧
        ((∀ t ∈ r.results, Short t.averageMs) → (∀ now : SuiteReport, now.compare r' = now.compare r) ∧
          ((r.results.map (·.tag)).Nodup →
            r.compare r' = r.results.map fun t => ⟨t.tag, t.averageMs, t.averageMs⟩))) ∧
      ((∀ t ∈ r.results, Short t.totalMs ∧ Short t.averageMs ∧ t.outcome.readBack?.isSome = true) →
        ∃ r', (load fs (path ⟨fs, dir⟩ r)).run s' = .ok (.ok r', s')) := by
  obtain ⟨s', run, loaded⟩ := load_after_save keeps start stamped free
  rw [answerTo_savedText, SuiteReport.readBack?_of_stamped stamped] at loaded
  refine ⟨s', run, fun r' again => ?_, fun short => ?_⟩
  · cases read : r.results.mapM Timing.readBack? with
    | none =>
      rw [loaded, read] at again
      cases again
    | some ts =>
      rw [loaded, read] at again
      cases again
      have back : List.Forall₂ Timing.ComesBack r.results ts :=
        (forall₂_of_mapM read).imp fun _ _ => Timing.comesBack_of_readBack?
      refine ⟨back, fun short => ?_⟩
      have compared (now : SuiteReport) : now.compare { r with results := ts } = now.compare r :=
        SuiteReport.compare_comesBack back short now
      exact ⟨compared, fun apart => (compared r).trans (SuiteReport.compare_self apart)⟩
  · have readable : (r.results.mapM Timing.readBack?).isSome = true := isSome_mapM.2 fun t mem =>
      Timing.isSome_readBack?_of_short (short t mem).1 (short t mem).2.1 (short t mem).2.2
    obtain ⟨ts, read⟩ := Option.isSome_iff_exists.1 readable
    rw [read] at loaded
    exact ⟨_, loaded⟩

/-- A report of two short runs. -/
def shortReport : SuiteReport :=
  ((SuiteReport.start ⟨1735787045, 0⟩ none).add (.ofTotal Workload.sieve.tag 1 10 12.345678 (.count 669))).add
    (.ofTotal Workload.crc.tag 1 8 0.5 (.count 1))

theorem times_come_back_shortReport :
    let archive : Archive MachineM := ⟨Machine.fileSystem, "reports"⟩
    ∃ s' r', (save archive shortReport).run desk = .ok (.ok (path archive shortReport), s') ∧
      (load archive.files (path archive shortReport)).run s' = .ok (.ok r', s') ∧
      shortReport.results.map (·.averageMs) = [1.2345678, 0.0625] ∧
      shortReport.compare r' = shortReport.results.map fun t => ⟨t.tag, t.averageMs, t.averageMs⟩ := by
  intro archive
  have short : ∀ t ∈ shortReport.results,
      Short t.totalMs ∧ Short t.averageMs ∧ t.outcome.readBack?.isSome = true := by
    refine List.forall_mem_cons.2 ⟨⟨⟨12345678, 6, ?_⟩, ⟨12345678, 7, ?_⟩, rfl⟩,
      List.forall_mem_singleton.2 ⟨⟨5, 1, ?_⟩, ⟨625, 4, ?_⟩, rfl⟩⟩
    all_goals exact ⟨by decide, by decide, .inl (by decide +kernel)⟩
  obtain ⟨s', run, back, loads⟩ := times_come_back (r := shortReport) ⟨by decide, by decide, by decide⟩
    (Machine.fileSystem_keeps (by decide)) holds_desk (free_desk _)
  obtain ⟨r', loaded⟩ := loads short
  obtain ⟨-, unchanged⟩ := (back r' loaded).2 fun t mem => (short t mem).2.1
  exact ⟨s', r', run, loaded, by decide +kernel, unchanged (by decide)⟩

/-- Eleven cycles that took a millisecond. -/
def eleventh : Timing := .ofTotal Workload.sieve.tag 1 11 1.0 (.count 669)

def eleventhReport : SuiteReport := (SuiteReport.start ⟨1735787045, 0⟩ none).add eleventh

/-- **Not all finite times come back**: an eleventh of a millisecond, written with sixteen digits, is read as the next
double, so the report shows a change against its own copy. -/
theorem eleventh_comes_back_changed :
    let archive : Archive MachineM := ⟨Machine.fileSystem, "reports"⟩
    eleventhReport.Finite ∧ ∃ s' r',
      (save archive eleventhReport).run desk = .ok (.ok (path archive eleventhReport), s') ∧
      (load archive.files (path archive eleventhReport)).run s' = .ok (.ok r', s') ∧
      eleventhReport.results.map (·.averageMs.toBits) = [0x3fb745d1745d1746] ∧
      r'.results.map (·.averageMs.toBits) = [0x3fb745d1745d1747] ∧
      (eleventhReport.compare r').map (fun d => (d.baselineMs.toBits, d.currentMs.toBits)) =
        [(0x3fb745d1745d1747, 0x3fb745d1745d1746)] := by
  intro archive
  have stamped : eleventhReport.timestamp.Stamped := ⟨by decide, by decide, by decide⟩
  obtain ⟨s', run, loaded⟩ := load_after_save (Machine.fileSystem_keeps (by decide)) holds_desk stamped (free_desk _)
  have total : (Json.float eleventh.totalMs).toFloat? = some eleventh.totalMs := by decide +kernel
  have average : (Json.float eleventh.averageMs).toFloat? = some (.ofBits 0x3fb745d1745d1747) := by decide +kernel
  have back : eleventhReport.results.mapM Timing.readBack? =
      some [{ eleventh with averageMs := .ofBits 0x3fb745d1745d1747 }] := by
    show [eleventh].mapM _ = _
    rw [List.mapM_cons, Timing.readBack?_eq_some_iff.2 ⟨_, _, _, total, average, rfl, rfl⟩]
    rfl
  rw [answerTo_savedText, SuiteReport.readBack?_of_stamped stamped, back] at loaded
  exact ⟨by decide +kernel, s', _, run, loaded, by decide +kernel, by decide +kernel, by decide +kernel⟩

end Archive
end BenchSuite
