import Mathlib.Data.List.DropRight
import BenchSuite.Proofs.Files.Entries
/-!
# Directories that are made

To make a directory is to add empty directories at places that its path passes (`Passes`), and what was there stays
(`Grows`).  The path of the directory above passes no other places (`Passes.of_parent`), so making all directories of a
path does no more than that (`makeWithin_run`).
-/
namespace BenchSuite

namespace Path

/-- The parts of a path that lead from one place to another. -/
def moves (path : String) : List String := (parts path).filter fun p => p != "" && p != "."

theorem no_slash_of_mem_cut : ∀ {cs part : List Char}, part ∈ cut '/' cs → '/' ∉ part
  | [], part, h => by
    obtain rfl := List.mem_singleton.1 h
    simp
  | c :: cs, part, h => by
    unfold cut at h
    split at h
    · rcases List.mem_cons.1 h with rfl | later
      · simp
      · exact no_slash_of_mem_cut later
    · rename_i other
      obtain ⟨first, rest, cuts⟩ := List.exists_cons_of_ne_nil (cut_ne_nil cs)
      rw [cuts] at h
      rcases List.mem_cons.1 h with rfl | later
      · rw [List.mem_cons, not_or]
        exact ⟨Ne.symm other, no_slash_of_mem_cut (cuts ▸ List.mem_cons_self)⟩
      · exact no_slash_of_mem_cut (cuts ▸ List.mem_cons_of_mem _ later)

theorem no_slash_of_mem_parts {path part : String} (h : part ∈ parts path) : '/' ∉ part.toList := by
  obtain ⟨cs, mem, rfl⟩ := List.mem_map.1 h
  rw [String.toList_ofList]
  exact no_slash_of_mem_cut mem

theorem parts_append_slash {part : String} (plain : '/' ∉ part.toList) (rest : String) :
    parts (part ++ "/" ++ rest) = part :: parts rest := by
  unfold parts
  rw [String.toList_append, String.toList_append, List.append_assoc]
  show (cut '/' (part.toList ++ '/' :: rest.toList)).map String.ofList = _
  rw [cut_append, cut_of_not_mem plain, List.map_append, List.map_singleton, String.ofList_toList, List.singleton_append]

/-- Parts that are put together are taken apart again, but that no parts are one empty part. -/
theorem parts_intercalate : ∀ {ss : List String}, (∀ s ∈ ss, '/' ∉ s.toList) →
    parts ("/".intercalate ss) = if ss = [] then [""] else ss
  | [], _ => rfl
  | [s], plain => by
    have plain : '/' ∉ s.toList := plain s List.mem_cons_self
    rw [if_neg (List.cons_ne_nil _ _)]
    show (cut '/' s.toList).map String.ofList = [s]
    rw [cut_of_not_mem plain, List.map_singleton, String.ofList_toList]
  | s :: u :: ss, plain => by
    have tail : ∀ s ∈ u :: ss, '/' ∉ s.toList := fun s hs => plain s (List.mem_cons_of_mem _ hs)
    have ih := parts_intercalate tail
    rw [String.intercalate_cons_cons, parts_append_slash (plain s List.mem_cons_self), ih]
    rfl

theorem moves_steps (path : String) : (steps path).filter (fun p => p != "" && p != ".") = moves path := by
  unfold steps moves
  split
  · rename_i none
    rw [none]
  · rename_i rest first
    rw [first]
    simp
  · simp

theorem no_slash_of_mem_steps {path step : String} (h : step ∈ steps path) : '/' ∉ step.toList ∧ step ≠ "" := by
  unfold steps at h
  split at h
  · cases h
  · rename_i rest first
    rcases List.mem_cons.1 h with rfl | later
    · decide
    · obtain ⟨mem, moves⟩ := List.mem_filter.1 later
      exact ⟨no_slash_of_mem_parts (first ▸ List.mem_cons_of_mem _ mem), by simp at moves; exact moves.1⟩
  · obtain ⟨mem, moves⟩ := List.mem_filter.1 h
    exact ⟨no_slash_of_mem_parts mem, by simp at moves; exact moves.1⟩

theorem moves_slash (path : String) : moves ("/" ++ path) = moves path := by
  unfold moves parts
  rw [String.toList_append]
  show ((cut '/' ('/' :: path.toList)).map String.ofList).filter _ = _
  rw [cut, if_pos rfl, List.map_cons]
  rfl

theorem isAbsolute_intercalate {ss : List String} (plain : ∀ s ∈ ss, '/' ∉ s.toList ∧ s ≠ "") :
    isAbsolute ("/".intercalate ss) = false := by
  have first : ∀ s : String, '/' ∉ s.toList → s ≠ "" → ∀ rest, (s.toList ++ rest).head? ≠ some '/' := by
    intro s plain ne rest
    obtain ⟨c, cs, chars⟩ := List.exists_cons_of_ne_nil fun e => ne (String.toList_eq_nil_iff.1 e)
    rw [chars, List.mem_cons, not_or] at plain
    rw [chars]
    simpa using Ne.symm plain.1
  unfold isAbsolute
  match ss, plain with
  | [], _ => rfl
  | [s], plain =>
    have := first s (plain s (by simp)).1 (plain s (by simp)).2 []
    simpa using this
  | s :: u :: ss, plain =>
    have := first s (plain s (by simp)).1 (plain s (by simp)).2 ("/".toList ++ ("/".intercalate (u :: ss)).toList)
    rw [String.intercalate_cons_cons, String.toList_append, String.toList_append, List.append_assoc]
    simpa using this

/-- **The directory above a path** is on the way to it. -/
theorem moves_parent {path above : String} (h : parent? path = some above) :
    isAbsolute above = isAbsolute path ∧ moves above <+: moves path := by
  have written : above = (if isAbsolute path then "/" else "") ++ "/".intercalate (steps path).dropLast := by
    unfold parent? at h
    split at h
    · cases h
    · exact (Option.some.inj h).symm
  have plain : ∀ s ∈ (steps path).dropLast, '/' ∉ s.toList ∧ s ≠ "" := fun s hs =>
    no_slash_of_mem_steps (List.dropLast_subset _ hs)
  have kept : moves ("/".intercalate (steps path).dropLast) <+: moves path := by
    rw [← moves_steps path, moves, parts_intercalate fun s hs => (plain s hs).1]
    split
    · exact List.nil_prefix
    · exact (List.dropLast_prefix _).filter _
  subst written
  cases absolute : isAbsolute path with
  | true =>
    rw [if_pos rfl, moves_slash]
    refine ⟨?_, kept⟩
    rw [isAbsolute, String.toList_append]
    rfl
  | false =>
    rw [if_neg (by decide), String.empty_append]
    exact ⟨isAbsolute_intercalate plain, kept⟩

end Path

namespace FileTree

variable {t t' t'' : FileTree} {p q dir : Place} {path : String}

/-- **The places that a path passes**, the one it names among them. -/
def Passes (dir : Place) (path : String) (q : Place) : Prop :=
  ∃ stem, stem <+: Path.moves path ∧ q = stem.foldl walk (start dir path)

theorem Passes.of_parent {above : String} (h : Path.parent? path = some above) (passes : Passes dir above q) :
    Passes dir path q := by
  obtain ⟨absolute, kept⟩ := Path.moves_parent h
  obtain ⟨stem, before, rfl⟩ := passes
  exact ⟨stem, before.trans kept, by rw [start, start, absolute]⟩

/-- **All that was there is there**, and what is new are directories at certain places. -/
def Grows (At : Place → Prop) (t t' : FileTree) : Prop :=
  ∀ q, t'.seen? q = t.seen? q ∨ At q ∧ t.seen? q = none ∧ t'.seen? q = some .directory

namespace Grows

variable {At At' : Place → Prop}

theorem refl (At : Place → Prop) (t : FileTree) : Grows At t t := fun _ => .inl rfl

theorem trans (first : Grows At t t') (second : Grows At t' t'') : Grows At t t'' := by
  intro q
  rcases second q with same₂ | ⟨here, none, made⟩
  · rw [same₂]
    exact first q
  · rcases first q with same₁ | ⟨-, -, taken⟩
    · rw [← same₁]
      exact .inr ⟨here, none, made⟩
    · rw [none] at taken
      cases taken

theorem mono (h : Grows At t t') (sub : ∀ q, At q → At' q) : Grows At' t t' :=
  fun q => (h q).imp_right fun ⟨here, new⟩ => ⟨sub q here, new⟩

end Grows

theorem foldl_walk_filter (parts : List String) (p : Place) :
    (parts.filter fun part => part != "" && part != ".").foldl walk p = parts.foldl walk p := by
  induction parts generalizing p with
  | nil => rfl
  | cons part parts ih =>
    by_cases still : part = "" ∨ part = "."
    · have same : walk p part = p := if_pos still
      have skipped : (part != "" && part != ".") = false := by rcases still with rfl | rfl <;> rfl
      rw [List.filter_cons, skipped, List.foldl_cons, same]
      exact ih p
    · have kept : (part != "" && part != ".") = true := by
        rw [not_or] at still
        simp [still]
      rw [List.filter_cons, kept, if_pos rfl, List.foldl_cons, List.foldl_cons, ih]

theorem dropEmptyEnd_eq (parts : List String) : dropEmptyEnd parts = parts.rdropWhile (· == "") := rfl

theorem getLast?_dropEmptyEnd {parts : List String} {last : String} (h : (dropEmptyEnd parts).getLast? = some last) :
    last ≠ "" := by
  rw [dropEmptyEnd_eq] at h
  have ne : parts.rdropWhile (· == "") ≠ [] := by
    rintro none
    rw [none] at h
    cases h
  have kept := List.rdropWhile_last_not _ _ ne
  rw [List.getLast?_eq_some_getLast ne] at h
  rw [Option.some.inj h] at kept
  simpa using kept

/-- **A directory that is made** is new, at a place that the path passes. -/
theorem makeDirectory_grows (made : t.makeDirectory dir path = .ok t') : Grows (Passes dir path) t t' := by
  unfold makeDirectory at made
  obtain ⟨parts, split, made⟩ := except_bind_ok made
  obtain ⟨-, -, -, rfl⟩ := pathParts_eq_ok.1 split
  dsimp only at made
  cases ends : (dropEmptyEnd (Path.parts path)).getLast? with
  | none =>
    rw [ends] at made
    cases made
  | some last =>
    obtain ⟨stem, cuts⟩ := List.getLast?_eq_some_iff.1 ends
    rw [ends, cuts, List.dropLast_concat, origin_eq, foldlM_enter] at made
    obtain ⟨above, reached, made⟩ := except_bind_ok made
    obtain ⟨trail, entered, made⟩ := except_bind_ok made
    obtain ⟨p, led, rfl⟩ := except_map_ok reached
    rw [enter_toPlace] at entered
    obtain ⟨q, stepped, rfl⟩ := except_map_ok entered
    split at made
    · cases made
    · rename_i fresh
      rw [not_or, not_or, Trail.target_toPlace] at fresh
      obtain ⟨there, rfl⟩ := eq_walk stepped
      have named : walk p last = p ++ [last] := walk_plain ⟨getLast?_dropEmptyEnd ends, fresh.1, fresh.2.1⟩ p
      rw [named] at fresh
      have none : t.seen? (p ++ [last]) = none := by
        rw [seen?, Option.not_isSome_iff_eq_none.1 fresh.2.2]
        rfl
      obtain rfl := Except.ok.inj made
      rw [Trail.place_toPlace, named]
      intro q
      rw [seen?_set (fun _ => rfl) last there (by simp [none]) q]
      by_cases here : q = p ++ [last]
      · subst here
        rw [if_pos rfl]
        refine .inr ⟨⟨(stem ++ [last]).filter fun part => part != "" && part != ".", ?_, ?_⟩, none, rfl⟩
        · rw [← cuts, dropEmptyEnd_eq]
          exact (List.rdropWhile_prefix _ _).filter _
        · rw [foldl_walk_filter, List.foldl_concat, ← eq_foldl_walk led, named]
      · exact .inl (if_neg here)

end FileTree

namespace Machine

open FileTree (Grows Passes)

variable {m m' : Machine} {path : String}

theorem change_run (f : FileTree → Place → Except FileError FileTree) (m : Machine) :
    (change f).run m = match f m.files m.dir with
      | .ok files => .ok (.ok (), { m with files })
      | .error e => .ok (.error e, m) := by
  have asked : (get : MachineM Machine).run m = .ok (m, m) := rfl
  rw [change, run_bind_ok asked]
  cases f m.files m.dir <;> rfl

/-- An attempt to make a directory makes it, or leaves the machine as it was. -/
theorem makeDirectory_run (path : String) (m : Machine) :
    (∃ t, (fileSystem.makeDirectory path).run m = .ok (.ok (), { m with files := t }) ∧
      Grows (Passes m.dir path) m.files t) ∨
    ∃ e, (fileSystem.makeDirectory path).run m = .ok (.error e, m) := by
  have run := change_run (fun t dir => t.makeDirectory dir path) m
  cases made : m.files.makeDirectory m.dir path with
  | ok t =>
    rw [made] at run
    exact .inl ⟨t, run, FileTree.makeDirectory_grows made⟩
  | error e =>
    rw [made] at run
    exact .inr ⟨e, run⟩

theorem unlessDirectory_run {e : FileError}
    (h : (fileSystem.unlessDirectory path e).run m = .ok (.ok (), m')) : m' = m := by
  have asked : (fileSystem.hasDirectory path).run m = .ok (m.files.hasDirectory m.dir path, m) := rfl
  unfold FileSystem.unlessDirectory at h
  rw [run_bind_ok asked] at h
  split at h
  · exact (Prod.mk.inj (Except.ok.inj h)).2.symm
  · cases (Prod.mk.inj (Except.ok.inj h)).1

/-- **The directories of a path are made**, and nothing else is changed. -/
theorem makeWithin_run : ∀ {fuel : Nat} {path : String} {m m' : Machine},
    (fileSystem.makeWithin fuel path).run m = .ok (.ok (), m') →
      ∃ t, m' = { m with files := t } ∧ Grows (Passes m.dir path) m.files t
  | 0, _, _, _, h => by cases (Prod.mk.inj (Except.ok.inj h)).1
  | fuel + 1, path, m, m', h => by
    unfold FileSystem.makeWithin at h
    split at h
    · obtain rfl := (Prod.mk.inj (Except.ok.inj h)).2
      exact ⟨m.files, rfl, .refl _ _⟩
    · rcases makeDirectory_run path m with ⟨t, made, grows⟩ | ⟨e, refused⟩
      · rw [run_bind_ok made] at h
        obtain rfl := (Prod.mk.inj (Except.ok.inj h)).2
        exact ⟨t, rfl, grows⟩
      · rw [run_bind_ok refused] at h
        dsimp only at h
        split at h
        · obtain rfl := unlessDirectory_run h
          exact ⟨m'.files, rfl, .refl _ _⟩
        · cases parent : Path.parent? path with
          | none =>
            rw [parent] at h
            cases (Prod.mk.inj (Except.ok.inj h)).1
          | some above =>
            rw [parent] at h
            dsimp only at h
            obtain ⟨answer, m₁, first, h⟩ := run_bind_eq_ok h
            cases answer with
            | error e => cases (Prod.mk.inj (Except.ok.inj h)).1
            | ok _ =>
              obtain ⟨t, rfl, grows⟩ := makeWithin_run first
              have grows := grows.mono fun _ => FileTree.Passes.of_parent parent
              dsimp only at h
              rcases makeDirectory_run path { m with files := t } with ⟨t', made, more⟩ | ⟨e, refused⟩
              · rw [run_bind_ok made] at h
                obtain rfl := (Prod.mk.inj (Except.ok.inj h)).2
                exact ⟨t', rfl, grows.trans more⟩
              · rw [run_bind_ok refused] at h
                obtain rfl := unlessDirectory_run h
                exact ⟨t, rfl, grows⟩

end Machine
end BenchSuite
