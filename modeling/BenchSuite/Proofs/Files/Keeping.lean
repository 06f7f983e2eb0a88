import BenchSuite.Fault
import BenchSuite.Files.System
/-!
# Directories that keep what is written

What a program relies on when it keeps files in a directory: the directory lists each of its entries once,
answers with what was last written under a name, and takes new files.
-/
namespace BenchSuite

theorem run_bind_ok {σ α β : Type} {x : StateT σ Checked α} {f : α → StateT σ Checked β} {s s' : σ} {a : α}
    (h : x.run s = .ok (a, s')) : (x >>= f).run s = (f a).run s' := by
  rw [StateT.run_bind, h]
  rfl

theorem run_bind_fault {σ α β : Type} {x : StateT σ Checked α} {f : α → StateT σ Checked β} {s : σ} {fault : Fault}
    (h : x.run s = .error fault) : (x >>= f).run s = .error fault := by
  rw [StateT.run_bind, h]
  rfl

theorem run_bind_eq_ok {σ α β : Type} {x : StateT σ Checked α} {f : α → StateT σ Checked β} {s s'' : σ} {b : β}
    (h : (x >>= f).run s = .ok (b, s'')) : ∃ a s', x.run s = .ok (a, s') ∧ (f a).run s' = .ok (b, s'') := by
  rcases first : x.run s with fault | ⟨a, s'⟩
  · rw [run_bind_fault first] at h
    cases h
  · rw [run_bind_ok first] at h
    exact ⟨a, s', rfl, h⟩

/-- A name that an entry of a directory can have. -/
structure Path.IsName (name : String) : Prop where
  no_slash : '/' ∉ name.toList
  no_nul : Char.ofNat 0 ∉ name.toList
  leads : name ≠ "" ∧ name ≠ "." ∧ name ≠ ".."
  short : name.utf8ByteSize ≤ 255

/-- **A directory that keeps what is written.**  In a state `s` with `At s names files` it holds entries
with these names, of which those that are files have these bytes. -/
structure FileSystem.Keeps {σ : Type} (fs : FileSystem (StateT σ Checked)) (dir : String)
    (At : σ → List String → (String → Option ByteArray) → Prop) : Prop where
  lists {s names files} : At s names files → names.Nodup ∧ (fs.names dir).run s = .ok (.ok names, s)
  reads {s names files name bytes} : At s names files → files name = some bytes →
    (fs.read (Path.join dir name)).run s = .ok (.ok bytes, s)
  writes {s names files name} (text : String) : At s names files → Path.IsName name →
    (name ∈ names → ∃ bytes, files name = some bytes) →
      ∃ s' names', (fs.write (Path.join dir name) text).run s = .ok (.ok (), s') ∧
        At s' names' (fun n => if n = name then some text.toUTF8 else files n) ∧
        ∀ n, n ∈ names' ↔ n = name ∨ n ∈ names

end BenchSuite
