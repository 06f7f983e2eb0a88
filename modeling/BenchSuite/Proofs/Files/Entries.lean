import BenchSuite.Proofs.Files.Directory
/-!
# What lies in a file tree

Two trees hold the same if they have the same entries at the same places (`seen?`).  Something without anything below
it, set where no directory is, changes the entry at its place and no other (`seen?_set`).  Where a path leads is known
from its text alone (`eq_foldl_walk`), so a file that is written changes the entry at one place, which the path tells
(`seen?_write`).
-/
namespace BenchSuite.FileTree

/-- What is seen of a place. -/
inductive Entry where
  | file (bytes : ByteArray)
  | directory

/-- What is seen of a tree at its root. -/
def entry : FileTree → Entry
  | .file bytes => .file bytes
  | .directory _ => .directory

/-- **What is seen at a place**, if anything lies there. -/
def seen? (t : FileTree) (p : Place) : Option Entry := (t.get? p).map entry

variable {t t' : FileTree} {p q dir : Place} {path name part : String} {children : List (String × FileTree)}

theorem seen?_eq_directory : t.seen? p = some .directory ↔ ∃ children, t.get? p = some (.directory children) := by
  unfold seen?
  cases t.get? p with
  | none => simp
  | some there => cases there <;> simp [entry]

theorem seen?_cons (children : List (String × FileTree)) (n : String) (q : Place) :
    (directory children).seen? (n :: q) = (children.lookup n).bind (·.seen? q) := by
  unfold seen?
  rw [get?, child?, Option.map_bind]
  rfl

/-- Nothing lies below a place where no directory is. -/
theorem seen?_below (free : t.seen? p ≠ some .directory) (q : Place) (n : String) : t.seen? (p ++ n :: q) = none := by
  rw [seen?, get?_append]
  cases found : t.get? p with
  | none => rfl
  | some there =>
    cases there with
    | file _ => rfl
    | directory _ => exact absurd (seen?_eq_directory.2 ⟨_, found⟩) free

/-- **Something without anything below it changes one entry**, where it is set in a directory in place of none. -/
theorem seen?_set {new : FileTree} (leaf : ∀ n, new.child? n = none) (name : String) : ∀ {p : Place} {t : FileTree},
    t.seen? p = some .directory → t.seen? (p ++ [name]) ≠ some .directory →
    ∀ q, (t.set (p ++ [name]) new).seen? q = if q = p ++ [name] then some new.entry else t.seen? q
  | [], .file _, there, _, _ => by simp [seen?, get?, entry] at there
  | [], .directory children, _, free, [] => by simp [set, seen?, get?, entry]
  | [], .directory children, _, free, n :: q => by
    rw [List.nil_append, set, seen?_cons, seen?_cons, lookup_changeChild]
    by_cases same : n = name
    · subst same
      rw [if_pos rfl, Option.bind_some, set]
      cases q with
      | nil => rw [if_pos rfl]; rfl
      | cons k q =>
        have below : new.seen? (k :: q) = none := by
          rw [seen?, get?, leaf]
          rfl
        have before := seen?_below free q k
        rw [List.nil_append, List.singleton_append, seen?_cons] at before
        rw [below, before, if_neg (by simp)]
    · rw [if_neg same, if_neg (by simp [same])]
  | k :: p, .file _, there, _, _ => by cases there
  | k :: p, .directory children, there, free, [] => by simp [set, seen?, get?, entry]
  | k :: p, .directory children, there, free, n :: q => by
    rw [seen?_cons] at there
    rw [List.cons_append, seen?_cons] at free
    rw [List.cons_append, set, seen?_cons, seen?_cons, lookup_changeChild]
    by_cases same : n = k
    · subst same
      cases found : children.lookup n with
      | none =>
        rw [found] at there
        cases there
      | some child =>
        rw [found, Option.bind_some] at there free
        simp only [if_true, Option.getD_some, Option.bind_some]
        rw [seen?_set leaf name there free q]
        simp
    · rw [if_neg same, if_neg (by simp [same])]

/-! ## Where paths lead -/

/-- Where a part of a path leads if it leads anywhere. -/
def walk (p : Place) (part : String) : Place :=
  if part = "" ∨ part = "." then p else if part = ".." then p.dropLast else p ++ [part]

/-- **The place that a path names.** -/
def placeOf (dir : Place) (path : String) : Place := (Path.parts path).foldl walk (start dir path)

theorem eq_walk (h : t.followPart p part = .ok q) : t.seen? p = some .directory ∧ q = walk p part := by
  unfold followPart at h
  split at h
  · cases h
  · cases h
  · rename_i children there
    refine ⟨seen?_eq_directory.2 ⟨children, there⟩, ?_⟩
    unfold walk
    split at h
    · rename_i still
      rw [if_pos still, Except.ok.inj h]
    · rename_i moves
      rw [if_neg moves]
      split at h
      · rename_i up
        rw [if_pos up, Except.ok.inj h]
      · rename_i down
        rw [if_neg down]
        split at h
        · cases h
        · exact (Except.ok.inj h).symm

theorem eq_foldl_walk : ∀ {parts : List String} {p : Place}, t.follow p parts = .ok q → q = parts.foldl walk p
  | [], _, h => (Except.ok.inj h).symm
  | part :: parts, p, h => by
    rw [follow, List.foldlM_cons] at h
    cases first : t.followPart p part with
    | error e =>
      rw [first] at h
      cases h
    | ok p' =>
      rw [first] at h
      rw [List.foldl_cons, ← (eq_walk first).2]
      exact eq_foldl_walk h

theorem follow_concat_eq_ok {parts : List String} (h : t.follow p (parts ++ [part]) = .ok q) :
    t.seen? (parts.foldl walk p) = some .directory ∧ q = walk (parts.foldl walk p) part := by
  rw [follow_concat] at h
  cases reached : t.follow p parts with
  | error e =>
    rw [reached] at h
    cases h
  | ok p' =>
    rw [reached] at h
    rw [← eq_foldl_walk reached]
    exact eq_walk h

theorem eq_of_resolve {trail : Trail} (h : t.resolve dir path = .ok trail) : trail = .toPlace t (placeOf dir path) := by
  obtain ⟨parts, split, -⟩ := except_bind_ok h
  rw [resolve_eq t dir split] at h
  obtain ⟨-, -, -, rfl⟩ := pathParts_eq_ok.1 split
  obtain ⟨p, led, rfl⟩ := except_map_ok h
  rw [eq_foldl_walk led, placeOf]

/-- **What is read lies at the place that its path names.** -/
theorem seen?_of_read {bytes : ByteArray} (h : t.read dir path = .ok bytes) :
    t.seen? (placeOf dir path) = some (.file bytes) := by
  obtain ⟨found, seen, h⟩ := except_bind_ok h
  obtain ⟨trail, resolved, seen⟩ := except_bind_ok seen
  rw [eq_of_resolve resolved, Trail.target_toPlace] at seen
  cases there : t.get? (placeOf dir path) with
  | none =>
    rw [there] at seen
    cases seen
  | some found' =>
    rw [there] at seen
    obtain rfl := Except.ok.inj seen
    cases found' with
    | directory _ => cases h
    | file bytes' =>
      rw [seen?, there, ← Except.ok.inj h]
      rfl

/-- A name that leads to an entry of a directory. -/
def Plain (name : String) : Prop := '/' ∉ name.toList ∧ name ≠ "" ∧ name ≠ "." ∧ name ≠ ".."

theorem walk_plain (h : name ≠ "" ∧ name ≠ "." ∧ name ≠ "..") (p : Place) : walk p name = p ++ [name] := by
  simp [walk, h]

/-- **A file that is written changes one entry**, in the directory that its path names. -/
theorem seen?_write {bytes : ByteArray} {d : String} (plain : Plain name)
    (written : t.write dir (Path.join d name) bytes = .ok t') : t.seen? (placeOf dir d) = some .directory ∧
      ∀ q, t'.seen? q = if q = placeOf dir d ++ [name] then some (.file bytes) else t.seen? q := by
  unfold write at written
  obtain ⟨trail, resolved, written⟩ := except_bind_ok written
  obtain ⟨parts, split, -⟩ := except_bind_ok resolved
  rw [resolve_eq t dir split] at resolved
  obtain ⟨-, -, -, rfl⟩ := pathParts_eq_ok.1 split
  obtain ⟨stem, joined, own⟩ := Path.parts_join d plain.1
  obtain ⟨p, led, rfl⟩ := except_map_ok resolved
  have begun : start dir (Path.join d name) = start dir d := by rw [start, start, Path.isAbsolute_join d plain.1]
  rw [joined, begun] at led
  obtain ⟨there, rfl⟩ := follow_concat_eq_ok led
  have place : stem.foldl walk (start dir d) = placeOf dir d := by
    -- an empty part at the end leads nowhere
    rcases own with own | own
    · rw [placeOf, own]
    · rw [placeOf, own, List.foldl_append]
      rfl
  rw [place] at there led written
  rw [walk_plain plain.2, Trail.target_toPlace, Trail.place_toPlace] at written
  have free : t.seen? (placeOf dir d ++ [name]) ≠ some .directory := by
    intro taken
    obtain ⟨children, found⟩ := seen?_eq_directory.1 taken
    rw [found] at written
    cases written
  have made : t' = t.set (placeOf dir d ++ [name]) (.file bytes) := by
    split at written
    · cases written
    · exact (Except.ok.inj written).symm
  refine ⟨there, fun q => ?_⟩
  rw [made, seen?_set (fun _ => rfl) name there free]
  rfl

end BenchSuite.FileTree
