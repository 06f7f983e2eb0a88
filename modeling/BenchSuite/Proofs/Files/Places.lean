import Mathlib.Data.List.Induction
import BenchSuite.Files.Tree
/-!
# Places in a file tree

A way through a tree is known by the place it has come to (`enter_toPlace`), so a path leads to a place by
its parts alone (`follow`), and asks of each place on the way only that a directory lies there.  A file that
is written takes no directory away: what led somewhere before still leads there (`follow_set`).
-/
namespace BenchSuite.FileTree

/-! ## Ways and places -/

theorem get?_append (t : FileTree) : ∀ p q : Place, t.get? (p ++ q) = (t.get? p).bind (·.get? q) := by
  intro p
  induction p generalizing t with
  | nil => intro q; rfl
  | cons name p ih =>
    intro q
    simp only [List.cons_append, get?, Option.bind_assoc]
    congr 1
    funext child
    exact ih child q

theorem get?_concat (t : FileTree) (p : Place) (name : String) :
    t.get? (p ++ [name]) = (t.get? p).bind (child? name) := by
  rw [get?_append]
  congr 1
  funext child
  exact Option.bind_fun_some _

namespace Trail

theorem toPlace_concat (t : FileTree) (p : Place) (name : String) :
    toPlace t (p ++ [name]) = (toPlace t p).step t name := by
  rw [toPlace, List.foldl_append]
  rfl

theorem target_toPlace (t : FileTree) (p : Place) : (toPlace t p).target t = t.get? p := by
  induction p using List.reverseRecOn with
  | nil => rfl
  | append_singleton p name ih =>
    rw [toPlace_concat, get?_concat, ← ih]
    rfl

theorem place_toPlace (t : FileTree) (p : Place) : (toPlace t p).place = p := by
  induction p using List.reverseRecOn with
  | nil => rfl
  | append_singleton p name ih =>
    rw [toPlace_concat]
    conv => rhs; rw [← ih]
    simp [place, step]

theorem tail_toPlace (t : FileTree) (p : Place) : (toPlace t p).tail = toPlace t p.dropLast := by
  induction p using List.reverseRecOn with
  | nil => rfl
  | append_singleton p name _ =>
    rw [toPlace_concat, List.dropLast_concat]
    rfl

end Trail

/-- Where one part of a path leads from a place. -/
def followPart (t : FileTree) (p : Place) (part : String) : Except FileError Place :=
  match t.get? p with
  | none => .error .missing
  | some (.file _) => .error .notDirectory
  | some (.directory _) =>
    if part = "" ∨ part = "." then .ok p
    else if part = ".." then .ok p.dropLast
    else if maxNameLength < part.utf8ByteSize then .error .nameTooLong
    else .ok (p ++ [part])

theorem enter_toPlace (t : FileTree) (p : Place) (part : String) :
    t.enter (.toPlace t p) part = (t.followPart p part).map (Trail.toPlace t) := by
  unfold enter followPart
  rw [Trail.target_toPlace, Trail.tail_toPlace, ← Trail.toPlace_concat]
  cases t.get? p with
  | none => rfl
  | some there =>
    cases there with
    | file bytes => rfl
    | directory children =>
      dsimp only
      split
      · rfl
      · split
        · rfl
        · split <;> rfl

/-- Where the parts of a path lead from a place. -/
def follow (t : FileTree) (p : Place) (parts : List String) : Except FileError Place :=
  parts.foldlM t.followPart p

theorem foldlM_enter (t : FileTree) : ∀ (parts : List String) (p : Place),
    parts.foldlM t.enter (.toPlace t p) = (t.follow p parts).map (Trail.toPlace t)
  | [], _ => rfl
  | part :: parts, p => by
    rw [follow, List.foldlM_cons, List.foldlM_cons, enter_toPlace]
    cases t.followPart p part with
    | error e => rfl
    | ok q => exact foldlM_enter t parts q

/-- The place where a path starts. -/
def start (dir : Place) (path : String) : Place := if Path.isAbsolute path then [] else dir

theorem origin_eq (t : FileTree) (dir : Place) (path : String) : t.origin dir path = .toPlace t (start dir path) := by
  unfold origin start
  split <;> rfl

theorem resolve_eq (t : FileTree) (dir : Place) {path : String} {parts : List String}
    (h : pathParts path = .ok parts) :
    t.resolve dir path = (t.follow (start dir path) parts).map (Trail.toPlace t) := by
  rw [resolve, h, origin_eq]
  exact foldlM_enter t parts _

/-! ## A file written -/

theorem lookup_cons_of_ne {n m : String} (h : n ≠ m) (t : FileTree) (rest : List (String × FileTree)) :
    ((m, t) :: rest).lookup n = rest.lookup n := by
  rw [List.lookup_cons, beq_false_of_ne h]

theorem lookup_changeChild (name : String) (f : FileTree → FileTree) (n : String) :
    ∀ children : List (String × FileTree), (changeChild name f children).lookup n =
      if n = name then some (f ((children.lookup name).getD empty)) else children.lookup n
  | [] => by
    by_cases h : n = name
    · subst h
      simp [changeChild]
    · rw [if_neg h, changeChild, lookup_cons_of_ne h]
  | (m, t) :: rest => by
    have ih := lookup_changeChild name f n rest
    unfold changeChild
    by_cases hm : m = name
    · subst hm
      by_cases h : n = m
      · subst h
        simp
      · rw [if_pos rfl, if_neg h, lookup_cons_of_ne h, lookup_cons_of_ne h]
    · rw [if_neg hm, lookup_cons_of_ne (Ne.symm hm)]
      by_cases h : n = m
      · subst h
        rw [if_neg hm]
        simp
      · rw [lookup_cons_of_ne h, lookup_cons_of_ne h, ih]

theorem mem_names_changeChild (name : String) (f : FileTree → FileTree) (n : String) :
    ∀ children : List (String × FileTree),
      n ∈ (changeChild name f children).map (·.1) ↔ n = name ∨ n ∈ children.map (·.1)
  | [] => by simp [changeChild]
  | (m, t) :: rest => by
    have ih := mem_names_changeChild name f n rest
    unfold changeChild
    by_cases hm : m = name
    · subst hm
      simp
    · rw [if_neg hm, List.map_cons, List.mem_cons, ih, List.map_cons, List.mem_cons, or_left_comm]

theorem nodup_names_changeChild (name : String) (f : FileTree → FileTree) :
    ∀ {children : List (String × FileTree)}, (children.map (·.1)).Nodup →
      ((changeChild name f children).map (·.1)).Nodup
  | [], _ => by simp [changeChild]
  | (m, t) :: rest, h => by
    rw [List.map_cons, List.nodup_cons] at h
    unfold changeChild
    by_cases hm : m = name
    · rw [if_pos hm, List.map_cons, List.nodup_cons]
      exact h
    · rw [if_neg hm, List.map_cons, List.nodup_cons, mem_names_changeChild, not_or]
      exact ⟨⟨hm, h.1⟩, nodup_names_changeChild name f h.2⟩

/-- What lies in the directory in which something is set. -/
theorem get?_set_parent (new : FileTree) (name : String) : ∀ (p : Place) {t : FileTree}
    {children : List (String × FileTree)}, t.get? p = some (.directory children) →
    (t.set (p ++ [name]) new).get? p = some (.directory (changeChild name (fun _ => new) children))
  | [], t, children, h => by
    obtain rfl : t = .directory children := Option.some.inj h
    rw [List.nil_append, set]
    simp only [set]
    rfl
  | n :: p, t, children, h => by
    cases t with
    | file bytes => cases h
    | directory cs =>
      obtain ⟨child, found, below⟩ := Option.bind_eq_some_iff.1 h
      have found : cs.lookup n = some child := found
      rw [List.cons_append, set]
      simp only [get?, child?, lookup_changeChild, if_true, found, Option.getD_some, Option.bind_some]
      exact get?_set_parent new name p below

/-- **A directory stays one** when something is set at a place that is not on the way to it. -/
theorem get?_set_directory (new : FileTree) : ∀ (p d : Place) {t : FileTree} {children : List (String × FileTree)},
    ¬ p <+: d → t.get? d = some (.directory children) →
    ∃ children', (t.set p new).get? d = some (.directory children')
  | [], d, _, _, off, _ => absurd (List.nil_prefix) off
  | n :: p, d, t, children, off, h => by
    cases t with
    | file bytes => exact ⟨children, by rw [set]; exact h⟩
    | directory cs =>
      rw [set]
      cases d with
      | nil => exact ⟨_, rfl⟩
      | cons m d =>
        obtain ⟨child, found, below⟩ := Option.bind_eq_some_iff.1 h
        have found : cs.lookup m = some child := found
        simp only [get?, child?, lookup_changeChild]
        by_cases same : m = n
        · subst same
          rw [if_pos rfl, found]
          exact get?_set_directory new p d (fun on => off ((List.prefix_cons_inj _).2 on)) below
        · rw [if_neg same, found]
          exact ⟨children, below⟩

/-- No directory lies below a place where none is. -/
theorem not_prefix_of_directory {t : FileTree} {p d : Place} {children : List (String × FileTree)}
    (free : ∀ c, t.get? p ≠ some (.directory c)) (h : t.get? d = some (.directory children)) : ¬ p <+: d := by
  rintro ⟨rest, rfl⟩
  rw [get?_append] at h
  obtain ⟨at_p, found, below⟩ := Option.bind_eq_some_iff.1 h
  cases at_p with
  | directory c => exact free c found
  | file bytes =>
    cases rest with
    | nil => cases below
    | cons m rest => cases below

/-- **What led somewhere before still leads there** after something was set where no directory was. -/
theorem follow_set {t : FileTree} {p : Place} (new : FileTree) (free : ∀ c, t.get? p ≠ some (.directory c)) :
    ∀ {parts : List String} {d q : Place}, t.follow d parts = .ok q → (t.set p new).follow d parts = .ok q
  | [], _, _, h => h
  | part :: parts, d, q, h => by
    rw [follow, List.foldlM_cons] at h ⊢
    cases first : t.followPart d part with
    | error e =>
      rw [first] at h
      cases h
    | ok d' =>
      rw [first] at h
      -- a step asks only that a directory lies where it starts, and there still lies one
      have same : (t.set p new).followPart d part = .ok d' := by
        unfold followPart at first ⊢
        split at first
        · cases first
        · cases first
        · rename_i children found
          obtain ⟨children', found'⟩ := get?_set_directory new p d (not_prefix_of_directory free found) found
          rw [found']
          exact first
      rw [same]
      exact follow_set new free h

end BenchSuite.FileTree
