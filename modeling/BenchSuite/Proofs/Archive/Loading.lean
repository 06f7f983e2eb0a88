import BenchSuite.Proofs.Archive.Listing
import BenchSuite.Proofs.Report.Reading
import BenchSuite.Proofs.Timestamp.RoundTrip
/-!
# Loading what was saved

A report with finite numbers is loaded as it was saved, as far as the texts of its numbers are faithful
(`load_of_written`).  With a number that is not finite it is saved all the same, but as null, and the file
is refused when it is loaded (`load_not_finite`).
-/
namespace BenchSuite

namespace SuiteReport

/-- Every floating-point number of the report is finite. -/
structure Finite (r : SuiteReport) : Prop where
  doubles : ∀ x ∈ r.doubles, x.isFinite = true
  singles : ∀ x ∈ r.singles, x.isFinite = true

/-- Every finite number of the report is what its text is read as. -/
structure Faithful (r : SuiteReport) : Prop where
  doubles : ∀ x ∈ r.doubles, x.isFinite = true → (Json.float x).toFloat? = some x
  singles : ∀ x ∈ r.singles, x.isFinite = true → (Json.float32 x).toFloat32? = some x

instance (r : SuiteReport) : Decidable r.Finite :=
  decidable_of_iff (_ ∧ _) ⟨fun h => ⟨h.1, h.2⟩, fun h => ⟨h.doubles, h.singles⟩⟩

instance (r : SuiteReport) : Decidable r.Faithful :=
  decidable_of_iff (_ ∧ _) ⟨fun h => ⟨h.1, h.2⟩, fun h => ⟨h.doubles, h.singles⟩⟩

theorem readBack?_of_faithful {r : SuiteReport} (stamped : r.timestamp.Stamped) (finite : r.Finite)
    (faithful : r.Faithful) : r.readBack? = some r :=
  readBack?_eq_some stamped.ofText?_text (fun x hx => faithful.doubles x hx (finite.doubles x hx))
    fun x hx => faithful.singles x hx (finite.singles x hx)

theorem finite_of_readBack? {r : SuiteReport} (h : r.readBack?.isSome = true) : r.Finite := by
  obtain ⟨-, doubles, singles⟩ := (isSome_readBack? r).1 h
  refine ⟨fun x hx => ?_, fun x hx => ?_⟩
  · by_contra infinite
    have read := doubles x hx
    rw [Json.toFloat?_float_of_not_finite infinite] at read
    cases read
  · by_contra infinite
    have read := singles x hx
    rw [Json.toFloat32?_float32_of_not_finite infinite] at read
    cases read

end SuiteReport

namespace Archive

variable {σ : Type} {fs : FileSystem (StateT σ Checked)}

theorem answerTo_savedText (r : SuiteReport) : answerTo r.savedText = match r.readBack? with
    | some r' => .ok r'
    | none => .error .malformed := by
  have read := r.ofText?_savedText
  cases back : r.readBack? with
  | none => rw [answerTo, read, back]
  | some r' => rw [answerTo, read, back]

/-- In a directory that keeps what is written, a saved report is there to be loaded. -/
theorem load_after_save {dir : String} {At : σ → List String → (String → Option ByteArray) → Prop}
    (keeps : fs.Keeps dir At) {s : σ} {names : List String} {files : String → Option ByteArray}
    (start : At s names files) {r : SuiteReport} (stamped : r.timestamp.Stamped)
    (free : r.fileName ∈ names → ∃ bytes, files r.fileName = some bytes) :
    ∃ s', (save ⟨fs, dir⟩ r).run s = .ok (.ok (path ⟨fs, dir⟩ r), s') ∧
      (load fs (path ⟨fs, dir⟩ r)).run s' = .ok (answerTo r.savedText, s') := by
  obtain ⟨s', names', run, after, -⟩ := save_run keeps start (SuiteReport.isName_fileName stamped.valid) free
  exact ⟨s', run, load_run (keeps.reads after (if_pos rfl))⟩

/-- **Loading undoes saving.**  From a file with either text of a report, the one that is saved or the one
without blanks, the report is loaded as it was: with any text and count, any kinds of outcomes, any number of
results, with a host or without, from the year 0 to 9999 and outside of leap seconds, if its numbers are finite and
faithful.  So it is where it is loaded after it was saved. -/
theorem load_of_written {r : SuiteReport} (stamped : r.timestamp.Stamped) (finite : r.Finite)
    (faithful : r.Faithful) :
    (∀ text, text = r.savedText ∨ text = r.toJson.compactText → ∀ p s,
      (fs.read p).run s = .ok (.ok text.toUTF8, s) → (load fs p).run s = .ok (.ok r, s)) ∧
    ∀ dir At, fs.Keeps dir At → ∀ s names files, At s names files →
      (r.fileName ∈ names → ∃ bytes, files r.fileName = some bytes) →
      ∃ s', (save ⟨fs, dir⟩ r).run s = .ok (.ok (path ⟨fs, dir⟩ r), s') ∧
        (load fs (path ⟨fs, dir⟩ r)).run s' = .ok (.ok r, s') := by
  have back := SuiteReport.readBack?_of_faithful stamped finite faithful
  have saved : answerTo r.savedText = .ok r := by rw [answerTo_savedText, back]
  have compact : answerTo r.toJson.compactText = .ok r := by rw [answerTo, r.ofText?_compactText, back]
  constructor
  · rintro text (rfl | rfl) p s held
    · rw [load_run held, saved]
    · rw [load_run held, compact]
  · intro dir At keeps s names files start free
    obtain ⟨s', run, loaded⟩ := load_after_save keeps start stamped free
    rw [saved] at loaded
    exact ⟨s', run, loaded⟩

theorem free_desk (r : SuiteReport) (h : r.fileName ∈ ["notes.txt", "baseline.json"]) :
    ∃ bytes, (none : Option ByteArray) = some bytes := by
  have others : ∀ n ∈ ["notes.txt", "baseline.json"], isReportName n = false := by decide
  have report := r.isReportName_fileName
  rw [others _ h] at report
  cases report

/-- A report with outcomes of all kinds. -/
def fullReport : SuiteReport where
  suite := "bench\t\"one\""
  version := "1.0.0"
  timestamp := ⟨1735787045, 7000001⟩
  systemInfo := some ⟨"größe\n", "Linux 6", none, "cpu\\0", 8, 3000, 18446744073709551615⟩
  results := [
    ⟨Workload.crc.tag, 1, 3, 0.75, 0.25, .count 18446744073709551615⟩,
    ⟨Workload.nbody.tag, 0, 1, 1e-7, 1e300, .scalar (-0.169)⟩,
    ⟨Workload.sha256.tag, 0, 1, 0.0, 5e-324, .digest (.replicate 32 7)⟩,
    ⟨Workload.queens.tag, 0, 1, -0.0, 2.0, .flag true⟩,
    ⟨Workload.biquad.tag, 0, 1, 16.0, 16.0, .signal [0.1, -1.5, 3e38]⟩,
    ⟨⟨"none", by decide⟩, 0, 1, 16.0, 16.0, .signal []⟩]

theorem load_of_written_fullReport :
    let archive : Archive MachineM := ⟨Machine.fileSystem, "reports"⟩
    ∃ s', (save archive fullReport).run desk = .ok (.ok "reports/suite_2025-01-02T03-04-05.007Z.json", s') ∧
      (load archive.files "reports/suite_2025-01-02T03-04-05.007Z.json").run s' = .ok (.ok fullReport, s') := by
  intro archive
  have name : path archive fullReport = "reports/suite_2025-01-02T03-04-05.007Z.json" := by decide +kernel
  have loaded := (load_of_written (r := fullReport) ⟨by decide, by decide, by decide⟩ (by decide +kernel)
    (by decide +kernel)).2 "reports" _ (Machine.fileSystem_keeps (by decide)) desk _ _ holds_desk (free_desk _)
  rwa [name] at loaded

/-- **A report with a number that is not finite is not loaded** from the text that was saved for it. -/
theorem load_not_finite {r : SuiteReport} (infinite : ¬ r.Finite) {p : String} {s : σ}
    (held : (fs.read p).run s = .ok (.ok r.savedText.toUTF8, s)) :
    (load fs p).run s = .ok (.error .malformed, s) := by
  have none : r.readBack? = none := by
    cases back : r.readBack? with
    | none => rfl
    | some r' => exact absurd (SuiteReport.finite_of_readBack? (by rw [back]; rfl)) infinite
  rw [load_run held, answerTo_savedText, none]

/-- A report with a scalar that is no number. -/
def nanReport : SuiteReport :=
  (SuiteReport.start ⟨1735787045, 0⟩ none).add (.ofTotal ⟨"nan", by decide⟩ 0 1 1.0 (.scalar (0.0 / 0.0)))

theorem load_not_finite_nanReport :
    let archive : Archive MachineM := ⟨Machine.fileSystem, "reports"⟩
    ¬ nanReport.Finite ∧ ∃ s', (save archive nanReport).run desk = .ok (.ok (path archive nanReport), s') ∧
      (load archive.files (path archive nanReport)).run s' = .ok (.error .malformed, s') := by
  intro archive
  have infinite : ¬ nanReport.Finite := by decide +kernel
  have keeps := Machine.fileSystem_keeps (show "reports".utf8ByteSize ≤ 3839 by decide)
  obtain ⟨s', names', run, after, -⟩ := save_run keeps holds_desk (r := nanReport)
    (SuiteReport.isName_fileName (by decide)) (free_desk _)
  exact ⟨infinite, s', run, load_not_finite infinite (keeps.reads after (if_pos rfl))⟩

/-- Not every report that is saved is loaded again. -/
theorem not_every_saved_is_loaded : ¬ ∀ (dir p : String) (r : SuiteReport) (m m' : Machine),
    (save ⟨Machine.fileSystem, dir⟩ r).run m = .ok (.ok p, m') →
      ∃ r', (load Machine.fileSystem p).run m' = .ok (.ok r', m') := by
  intro all
  have refused : nanReport.readBack? = none := by
    cases back : nanReport.readBack? with
    | none => rfl
    | some r' => exact absurd (SuiteReport.finite_of_readBack? (by rw [back]; rfl)) (by decide +kernel)
  obtain ⟨s', run, loaded⟩ := load_after_save (Machine.fileSystem_keeps (by decide)) holds_desk (r := nanReport)
    ⟨by decide, by decide, by decide⟩ (free_desk _)
  obtain ⟨r', again⟩ := all _ _ _ _ _ run
  rw [loaded, answerTo_savedText, refused] at again
  cases again

end Archive
end BenchSuite
