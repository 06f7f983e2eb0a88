import Mathlib.Data.List.Nodup
/-!
# The first entry with a key

A list in which no key occurs twice has one entry at most under a key, so it does not matter where in the list that
is.
-/
namespace BenchSuite

variable {α κ : Type} [BEq κ] [LawfulBEq κ] {key : α → κ} {xs ys : List α} {x : α} {k : κ}

theorem find?_key_eq_some (once : (xs.map key).Nodup) :
    xs.find? (fun x => key x == k) = some x ↔ x ∈ xs ∧ key x = k := by
  constructor
  · intro found
    exact ⟨List.mem_of_find?_eq_some found, by simpa using List.find?_some found⟩
  · rintro ⟨mem, rfl⟩
    cases found : xs.find? (fun y => key y == key x) with
    | none => exact absurd (List.find?_eq_none.1 found x mem) (by simp)
    | some y =>
      have same : key y = key x := by simpa using List.find?_some found
      rw [List.inj_on_of_nodup_map once (List.mem_of_find?_eq_some found) mem same]

/-- **What is found under a key** is the same in every list with the same entries under it, in any order and any
number. -/
theorem find?_key_congr (once : (xs.map key).Nodup) (same : ∀ x, key x = k → (x ∈ ys ↔ x ∈ xs)) :
    ys.find? (fun x => key x == k) = xs.find? (fun x => key x == k) := by
  cases found : ys.find? (fun x => key x == k) with
  | some y =>
    have named : key y = k := by simpa using List.find?_some found
    have held : y ∈ xs := (same y named).1 (List.mem_of_find?_eq_some found)
    exact ((find?_key_eq_some once).2 ⟨held, named⟩).symm
  | none =>
    have others : ∀ x ∈ xs, ¬ (key x == k) = true := fun x held named =>
      List.find?_eq_none.1 found x ((same x (eq_of_beq named)).2 held) named
    exact (List.find?_eq_none.2 others).symm

end BenchSuite
