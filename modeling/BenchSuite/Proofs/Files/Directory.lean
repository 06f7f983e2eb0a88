import BenchSuite.Machine
import BenchSuite.Proofs.Files.Keeping
import BenchSuite.Proofs.Files.Places
/-!
# The directories of a machine

A directory of a machine keeps what is written, whatever path leads to it (`fileSystem_keeps`).
-/
namespace BenchSuite

/-! ## Paths of entries -/

namespace Path

theorem cut_ne_nil (cs : List Char) : cut '/' cs ≠ [] := by
  cases cs with
  | nil => exact List.cons_ne_nil _ _
  | cons c cs =>
    unfold cut
    split
    · exact List.cons_ne_nil _ _
    · split <;> exact List.cons_ne_nil _ _

theorem cut_append (ds : List Char) : ∀ cs : List Char, cut '/' (cs ++ '/' :: ds) = cut '/' cs ++ cut '/' ds
  | [] => by simp [cut]
  | c :: cs => by
    have ih := cut_append ds cs
    rw [List.cons_append, cut, cut, ih]
    split
    · rfl
    · obtain ⟨part, parts, h⟩ := List.exists_cons_of_ne_nil (cut_ne_nil cs)
      rw [h]
      rfl

theorem cut_of_not_mem : ∀ {cs : List Char}, '/' ∉ cs → cut '/' cs = [cs]
  | [], _ => rfl
  | c :: cs, h => by
    rw [List.mem_cons, not_or] at h
    rw [cut, if_neg (Ne.symm h.1), cut_of_not_mem h.2]

/-- The parts of the path of an entry: those of the directory, but for an empty one at their end, and the name. -/
theorem parts_join (dir : String) {name : String} (plain : '/' ∉ name.toList) :
    ∃ stem, parts (join dir name) = stem ++ [name] ∧ (parts dir = stem ∨ parts dir = stem ++ [""]) := by
  unfold join parts
  by_cases slash : dir.toList.getLast? = some '/'
  · obtain ⟨front, hf⟩ := List.getLast?_eq_some_iff.1 slash
    refine ⟨(cut '/' front).map String.ofList, ?_, .inr ?_⟩
    · rw [if_pos (.inr slash), String.toList_append, hf, List.append_assoc, List.singleton_append, cut_append,
        cut_of_not_mem plain, List.map_append, List.map_singleton, String.ofList_toList]
    · rw [hf, cut_append, List.map_append]
      rfl
  · by_cases empty : dir = ""
    · subst empty
      refine ⟨[], ?_, .inr rfl⟩
      rw [if_pos (.inl rfl), String.empty_append, cut_of_not_mem plain, List.map_singleton, String.ofList_toList,
        List.nil_append]
    · refine ⟨(cut '/' dir.toList).map String.ofList, ?_, .inl rfl⟩
      rw [if_neg (by simp [empty, slash]), String.toList_append, String.toList_append, List.append_assoc]
      show ((cut '/' (dir.toList ++ '/' :: name.toList)).map String.ofList) = _
      rw [cut_append, cut_of_not_mem plain, List.map_append, List.map_singleton, String.ofList_toList]

theorem toList_join (dir name : String) : ∃ rest, (join dir name).toList = dir.toList ++ rest := by
  unfold join
  split
  · exact ⟨name.toList, String.toList_append⟩
  · refine ⟨"/".toList ++ name.toList, ?_⟩
    rw [String.toList_append, String.toList_append, List.append_assoc]

theorem join_ne_empty {dir : String} (name : String) (ne : dir ≠ "") : join dir name ≠ "" := by
  obtain ⟨rest, h⟩ := toList_join dir name
  rintro e
  rw [e] at h
  exact ne (String.toList_eq_nil_iff.1 (List.append_eq_nil_iff.1 h.symm).1)

theorem isAbsolute_join (dir : String) {name : String} (plain : '/' ∉ name.toList) :
    isAbsolute (join dir name) = isAbsolute dir := by
  by_cases empty : dir = ""
  · subst empty
    rw [join, if_pos (.inl rfl), String.empty_append, isAbsolute]
    cases chars : name.toList with
    | nil => rfl
    | cons c cs =>
      rw [chars, List.mem_cons, not_or] at plain
      simp [isAbsolute, Ne.symm plain.1]
  · obtain ⟨rest, h⟩ := toList_join dir name
    obtain ⟨c, cs, long⟩ := List.exists_cons_of_ne_nil fun e => empty (String.toList_eq_nil_iff.1 e)
    rw [isAbsolute, isAbsolute, h, long]
    rfl

theorem utf8ByteSize_join_le (dir name : String) :
    (join dir name).utf8ByteSize ≤ dir.utf8ByteSize + 1 + name.utf8ByteSize := by
  unfold join
  split
  · rw [String.utf8ByteSize_append]
    omega
  · rw [String.utf8ByteSize_append, String.utf8ByteSize_append]
    exact Nat.le_refl _

theorem mem_join {dir name : String} {c : Char} (h : c ∈ (join dir name).toList) :
    c ∈ dir.toList ∨ c = '/' ∨ c ∈ name.toList := by
  unfold join at h
  split at h
  · rw [String.toList_append, List.mem_append] at h
    exact h.imp_right .inr
  · rw [String.toList_append, String.toList_append, List.mem_append, List.mem_append] at h
    rcases h with (h | h) | h
    · exact .inl h
    · exact .inr (.inl (List.mem_singleton.1 h))
    · exact .inr (.inr h)

end Path

namespace FileTree

variable {t : FileTree} {dir p q : Place} {path name : String} {children : List (String × FileTree)}

/-! ## Where paths lead -/

theorem pathParts_eq_ok {parts : List String} : pathParts path = .ok parts ↔
    Char.ofNat 0 ∉ path.toList ∧ path ≠ "" ∧ path.utf8ByteSize ≤ maxPathLength ∧ parts = Path.parts path := by
  unfold pathParts
  by_cases nul : Char.ofNat 0 ∈ path.toList
  · simp [nul]
  · by_cases empty : path = ""
    · simp [empty]
    · by_cases long : maxPathLength < path.utf8ByteSize
      · simp [nul, empty, long, Nat.not_le.2 long]
      · rw [if_neg long]
        simp [nul, empty, Nat.not_lt.1 long, eq_comm]

/-- A path leads to a place. -/
def LeadsTo (t : FileTree) (dir : Place) (path : String) (p : Place) : Prop :=
  ∃ parts, pathParts path = .ok parts ∧ t.follow (start dir path) parts = .ok p

theorem follow_concat (t : FileTree) (p : Place) (parts : List String) (part : String) :
    t.follow p (parts ++ [part]) = (t.follow p parts).bind (t.followPart · part) := by
  rw [follow, List.foldlM_append]
  simp only [List.foldlM_cons, List.foldlM_nil, bind_pure]
  rfl

theorem followPart_eq_ok (h : t.followPart p "" = .ok q) : q = p := by
  unfold followPart at h
  split at h
  · cases h
  · cases h
  · exact (Except.ok.inj h).symm

theorem followPart_name (h : t.get? p = some (.directory children)) (name : Path.IsName n) :
    t.followPart p n = .ok (p ++ [n]) := by
  obtain ⟨empty, point, points⟩ := name.leads
  unfold followPart
  rw [h]
  simp only [empty, point, points, Nat.not_lt.2 (show n.utf8ByteSize ≤ maxNameLength from name.short), or_self, if_false]

theorem mem_names_of_lookup {found : FileTree} (h : children.lookup name = some found) : name ∈ children.map (·.1) := by
  obtain ⟨front, back, rfl, -⟩ := List.lookup_eq_some_iff.1 h
  simp

namespace LeadsTo

theorem resolve_eq (h : t.LeadsTo dir path p) : t.resolve dir path = .ok (.toPlace t p) := by
  obtain ⟨parts, split, led⟩ := h
  rw [FileTree.resolve_eq t dir split, led]
  rfl

/-- **The path of an entry** leads to it. -/
theorem join (h : t.LeadsTo dir path p) (there : t.get? p = some (.directory children))
    (short : path.utf8ByteSize ≤ 3839) (entry : Path.IsName name) : t.LeadsTo dir (Path.join path name) (p ++ [name]) := by
  obtain ⟨parts, split, led⟩ := h
  obtain ⟨nul, ne, -, rfl⟩ := pathParts_eq_ok.1 split
  obtain ⟨stem, joined, own⟩ := Path.parts_join path entry.no_slash
  refine ⟨_, pathParts_eq_ok.2 ⟨fun mem => ?_, fun e => ?_, ?_, rfl⟩, ?_⟩
  · rcases Path.mem_join mem with mem | mem | mem
    · exact nul mem
    · exact absurd mem (by decide)
    · exact entry.no_nul mem
  · exact Path.join_ne_empty name ne e
  · have := Path.utf8ByteSize_join_le path name
    have := entry.short
    unfold maxPathLength
    omega
  · -- an empty part at the end of the path of the directory has led nowhere
    have led : t.follow (start dir path) stem = .ok p := by
      rcases own with own | own
      · rwa [own] at led
      · rw [own, follow_concat] at led
        cases reached : t.follow (start dir path) stem with
        | error e =>
          rw [reached] at led
          cases led
        | ok q =>
          rw [reached] at led
          rw [followPart_eq_ok led]
    rw [start, Path.isAbsolute_join path entry.no_slash, joined, follow_concat]
    rw [start] at led
    rw [led]
    exact followPart_name there entry

theorem set (new : FileTree) (free : ∀ c, t.get? q ≠ some (.directory c)) (h : t.LeadsTo dir path p) :
    (t.set q new).LeadsTo dir path p := by
  obtain ⟨parts, split, led⟩ := h
  exact ⟨parts, split, follow_set new free led⟩

theorem find_eq (h : t.LeadsTo dir path p) {found : FileTree} (there : t.get? p = some found) :
    t.find dir path = .ok found := by
  unfold find
  rw [h.resolve_eq]
  dsimp only [bind, Except.bind]
  rw [Trail.target_toPlace, there]
  rfl

theorem read_eq (h : t.LeadsTo dir path p) {bytes : ByteArray} (there : t.get? p = some (.file bytes)) :
    t.read dir path = .ok bytes := by
  unfold read
  rw [h.find_eq there]
  rfl

theorem names_eq (h : t.LeadsTo dir path p) (there : t.get? p = some (.directory children)) :
    t.names dir path = .ok (children.map (·.1)) := by
  unfold names
  rw [h.find_eq there]
  rfl

theorem write_eq (h : t.LeadsTo dir path p) (free : ∀ c, t.get? p ≠ some (.directory c)) (bytes : ByteArray) :
    t.write dir path bytes = .ok (t.set p (.file bytes)) := by
  unfold write
  rw [h.resolve_eq]
  dsimp only [bind, Except.bind]
  rw [Trail.target_toPlace, Trail.place_toPlace]
  cases found : t.get? p with
  | none => rfl
  | some there =>
    cases there with
    | file _ => rfl
    | directory c => exact absurd found (free c)

end LeadsTo
end FileTree

/-! ## Directories -/

namespace Machine

/-- **What a directory of a machine holds**: entries with these names, of which those that are files have
these bytes. -/
def Holds (path : String) (m : Machine) (names : List String) (files : String → Option ByteArray) : Prop :=
  ∃ p children, m.files.LeadsTo m.dir path p ∧ m.files.get? p = some (.directory children) ∧
    children.map (·.1) = names ∧ names.Nodup ∧
    ∀ name bytes, files name = some bytes → Path.IsName name ∧ children.lookup name = some (.file bytes)

theorem run_ask {α : Type} (f : FileTree → Place → α) (m : Machine) : (ask f).run m = .ok (f m.files m.dir, m) := rfl

theorem run_change {f : FileTree → Place → Except FileError FileTree} {m : Machine} {t : FileTree}
    (h : f m.files m.dir = .ok t) : (change f).run m = .ok (.ok (), { m with files := t }) := by
  have asked : (get : MachineM Machine).run m = .ok (m, m) := rfl
  rw [change, run_bind_ok asked, h]
  rfl

section

variable {path : String} {m : Machine} {names : List String} {files : String → Option ByteArray}

theorem Holds.names_run (h : Holds path m names files) :
    names.Nodup ∧ (fileSystem.names path).run m = .ok (.ok names, m) := by
  obtain ⟨p, children, leads, there, rfl, once, -⟩ := h
  refine ⟨once, ?_⟩
  show (ask fun t dir => t.names dir path).run m = _
  rw [run_ask, leads.names_eq there]

variable {name : String} (short : path.utf8ByteSize ≤ 3839)
include short

theorem Holds.read_run {bytes : ByteArray} (h : Holds path m names files) (found : files name = some bytes) :
    (fileSystem.read (Path.join path name)).run m = .ok (.ok bytes, m) := by
  obtain ⟨p, children, leads, there, -, -, held⟩ := h
  obtain ⟨entry, file⟩ := held name bytes found
  have at_entry : m.files.get? (p ++ [name]) = some (.file bytes) := by
    rw [FileTree.get?_concat, there]
    exact file
  show (ask fun t dir => t.read dir (Path.join path name)).run m = _
  rw [run_ask, (leads.join there short entry).read_eq at_entry]

/-- What a directory holds after a file was written there. -/
theorem Holds.write_run (h : Holds path m names files) (text : String) (entry : Path.IsName name)
    (free : name ∈ names → ∃ bytes, files name = some bytes) :
    ∃ m' names', (fileSystem.write (Path.join path name) text).run m = .ok (.ok (), m') ∧
      Holds path m' names' (fun n => if n = name then some text.toUTF8 else files n) ∧
      ∀ n, n ∈ names' ↔ n = name ∨ n ∈ names := by
  obtain ⟨p, children, leads, there, rfl, once, held⟩ := h
  have at_entry : m.files.get? (p ++ [name]) = children.lookup name := by
    rw [FileTree.get?_concat, there]
    rfl
  have free : ∀ c, m.files.get? (p ++ [name]) ≠ some (.directory c) := by
    intro c found
    rw [at_entry] at found
    obtain ⟨bytes, file⟩ := free (FileTree.mem_names_of_lookup found)
    rw [(held name bytes file).2] at found
    cases found
  have written := run_change (f := fun t dir => t.write dir (Path.join path name) text.toUTF8)
    ((leads.join there short entry).write_eq free text.toUTF8)
  refine ⟨_, (FileTree.changeChild name (fun _ => .file text.toUTF8) children).map (·.1), written, ?_, fun n => ?_⟩
  · refine ⟨p, _, leads.set _ free, FileTree.get?_set_parent _ _ _ there, rfl,
      FileTree.nodup_names_changeChild _ _ once, fun n bytes h => ?_⟩
    have h : (if n = name then some text.toUTF8 else files n) = some bytes := h
    rw [FileTree.lookup_changeChild]
    by_cases same : n = name
    · subst same
      rw [if_pos rfl] at h ⊢
      rw [← Option.some.inj h]
      exact ⟨entry, rfl⟩
    · rw [if_neg same] at h ⊢
      exact held n bytes h
  · exact FileTree.mem_names_changeChild _ _ _ _

/-- **A directory of a machine keeps what is written**, by whatever path it is reached, if that leaves room
for the names. -/
theorem fileSystem_keeps : fileSystem.Keeps path (Holds path) where
  lists h := h.names_run
  reads h found := h.read_run short found
  writes text h entry free := h.write_run short text entry free

end

end Machine
end BenchSuite
