import BenchSuite.Archive
import BenchSuite.Proofs.Files.Keeping
/-!
# Saving reports

In a directory that keeps what is written, loading a file comes to what its text is read as (`load_run`),
and a row of saves leaves a file for each name, with the text of the last report that goes by it
(`saves_run`).
-/
namespace BenchSuite

namespace Archive

variable {σ : Type} {fs : FileSystem (StateT σ Checked)} {dir : String}
  {At : σ → List String → (String → Option ByteArray) → Prop}

theorem fromUTF8?_toUTF8 (text : String) : String.fromUTF8? text.toUTF8 = some text :=
  dif_pos text.isValidUTF8

/-- What loading a file with a text comes to. -/
def answerTo (text : String) : Except ReportError SuiteReport :=
  match SuiteReport.ofText? text with
  | some r => .ok r
  | none => .error .malformed

theorem load_run {path text : String} {s : σ}
    (h : (fs.read path).run s = .ok (.ok text.toUTF8, s)) : (load fs path).run s = .ok (answerTo text, s) := by
  have read : (fs.readText path).run s = .ok (.ok text, s) := by
    refine (run_bind_ok h).trans ?_
    simp only [fromUTF8?_toUTF8]
    rfl
  exact run_bind_ok read

theorem save_run (keeps : fs.Keeps dir At) {s : σ} {names : List String} {files : String → Option ByteArray}
    (start : At s names files) {r : SuiteReport} (name : Path.IsName r.fileName)
    (free : r.fileName ∈ names → ∃ bytes, files r.fileName = some bytes) :
    ∃ s' names', (save ⟨fs, dir⟩ r).run s = .ok (.ok (path ⟨fs, dir⟩ r), s') ∧
      At s' names' (fun n => if n = r.fileName then some r.savedText.toUTF8 else files n) ∧
      ∀ n, n ∈ names' ↔ n = r.fileName ∨ n ∈ names := by
  obtain ⟨s', names', run, after, listed⟩ := keeps.writes r.savedText start name free
  exact ⟨s', names', run_bind_ok run, after, listed⟩

/-- The last report of a row that goes by a file name. -/
def lastNamed (saved : List SuiteReport) (name : String) : Option SuiteReport :=
  saved.reverse.find? (·.fileName == name)

theorem lastNamed_cons (r : SuiteReport) (saved : List SuiteReport) (name : String) :
    lastNamed (r :: saved) name =
      (lastNamed saved name).or (if name = r.fileName then some r else none) := by
  unfold lastNamed
  rw [List.reverse_cons, List.find?_append, List.find?_singleton]
  by_cases h : name = r.fileName
  · simp [h]
  · have h' : ¬ r.fileName = name := fun e => h e.symm
    simp [h, h']

/-- What the files hold after a row of saves. -/
def heldAfter (saved : List SuiteReport) (files : String → Option ByteArray) (name : String) : Option ByteArray :=
  ((lastNamed saved name).map fun r => r.savedText.toUTF8).or (files name)

theorem heldAfter_cons (r : SuiteReport) (saved : List SuiteReport) (files : String → Option ByteArray) :
    heldAfter saved (fun n => if n = r.fileName then some r.savedText.toUTF8 else files n) =
      heldAfter (r :: saved) files := by
  funext name
  unfold heldAfter
  rw [lastNamed_cons]
  by_cases h : name = r.fileName <;> cases lastNamed saved name <;> simp [h]

/-- **A row of saves** answers with the paths, and leaves each name with the text of the last report that
goes by it. -/
theorem saves_run (keeps : fs.Keeps dir At) : ∀ (saved : List SuiteReport) {s : σ} {names : List String}
    {files : String → Option ByteArray}, At s names files → (∀ r ∈ saved, Path.IsName r.fileName) →
    (∀ r ∈ saved, r.fileName ∈ names → ∃ bytes, files r.fileName = some bytes) →
    ∃ s' names', (saved.mapM (save ⟨fs, dir⟩)).run s = .ok (saved.map fun r => .ok (path ⟨fs, dir⟩ r), s') ∧
      At s' names' (heldAfter saved files) ∧ ∀ n, n ∈ names' ↔ n ∈ names ∨ ∃ r ∈ saved, r.fileName = n
  | [], s, names, files, start, _, _ => ⟨s, names, rfl, start, fun n => by simp⟩
  | r :: saved, s, names, files, start, named, free => by
    obtain ⟨s₁, names₁, run₁, start₁, listed₁⟩ := save_run keeps start (named r List.mem_cons_self)
      (free r List.mem_cons_self)
    -- a name that is taken now holds a file: one from before, or the one just saved
    have free₁ : ∀ q ∈ saved, q.fileName ∈ names₁ → ∃ bytes,
        (if q.fileName = r.fileName then some r.savedText.toUTF8 else files q.fileName) = some bytes := by
      intro q hq hn
      by_cases same : q.fileName = r.fileName
      · exact ⟨_, if_pos same⟩
      · obtain ⟨bytes, held⟩ := free q (List.mem_cons_of_mem _ hq) (((listed₁ _).1 hn).resolve_left same)
        exact ⟨bytes, (if_neg same).trans held⟩
    obtain ⟨s₂, names₂, run₂, start₂, listed₂⟩ := saves_run keeps saved start₁
      (fun q hq => named q (List.mem_cons_of_mem _ hq)) free₁
    rw [heldAfter_cons] at start₂
    refine ⟨s₂, names₂, ?_, start₂, fun n => ?_⟩
    · rw [List.mapM_cons]
      exact (run_bind_ok run₁).trans (run_bind_ok run₂)
    · rw [listed₂, listed₁]
      constructor
      · rintro ((rfl | old) | ⟨q, hq, hn⟩)
        · exact .inr ⟨r, List.mem_cons_self, rfl⟩
        · exact .inl old
        · exact .inr ⟨q, List.mem_cons_of_mem _ hq, hn⟩
      · rintro (old | ⟨q, hq, hn⟩)
        · exact .inl (.inr old)
        · rcases List.mem_cons.1 hq with rfl | later
          · exact .inl (.inl hn.symm)
          · exact .inr ⟨q, later, hn⟩

end Archive
end BenchSuite
