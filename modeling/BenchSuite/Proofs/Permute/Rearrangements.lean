import Mathlib.Data.List.Basic
import Mathlib.Data.Nat.Factorial.Basic
import BenchSuite.Proofs.Permute.Calls
/-!
# Every rearrangement is visited

The innermost calls of a walk are those that have nothing left to rearrange.  An array with its first `n + 1` entries in
another order has one of these entries at place `n`, and is, once that entry was exchanged into its place, an array with
its first `n` entries in another order (`rearranged_succ`): just so goes the walk.  So the innermost calls find all such
arrays and no others (`mem_innermost`).
-/
namespace BenchSuite.Permuter

open scoped Nat

variable {values w x : Array Nat} {i n : Nat}

/-- **The first entries in another order**, and all others in their places. -/
structure Rearranged (n : Nat) (values w : Array Nat) : Prop where
  first : (w.toList.take n).Perm (values.toList.take n)
  rest : w.toList.drop n = values.toList.drop n

theorem rearranged_zero : Rearranged 0 values w ↔ w = values :=
  ⟨fun h => Array.toList_inj.1 h.rest, fun h => h ▸ ⟨.refl _, rfl⟩⟩

namespace Rearranged

theorem symm (h : Rearranged n values w) : Rearranged n w values := ⟨h.first.symm, h.rest.symm⟩

theorem trans (h : Rearranged n values w) (h' : Rearranged n w x) : Rearranged n values x :=
  ⟨h'.first.trans h.first, h'.rest.trans h.rest⟩

theorem perm (h : Rearranged n values w) : w.toList.Perm values.toList := by
  rw [← List.take_append_drop n w.toList, ← List.take_append_drop n values.toList, h.rest]
  exact h.first.append_right _

theorem size_eq (h : Rearranged n values w) : w.size = values.size := h.perm.length_eq

theorem succ (h : Rearranged n values w) : Rearranged (n + 1) values w where
  first := by
    rw [List.take_add, List.take_add, h.rest]
    exact h.first.append_right _
  rest := by rw [← List.drop_drop, ← List.drop_drop, h.rest]

theorem of_succ (h : Rearranged (n + 1) values w) (same : w[n]? = values[n]?) : Rearranged n values w := by
  have same' : w.toList[n]? = values.toList[n]? := by simpa using same
  have first := h.first
  rw [List.take_add_one, List.take_add_one, same', List.perm_append_right_iff] at first
  exact ⟨first, by rw [List.drop_eq_getElem?_toList_append, same', h.rest, ← List.drop_eq_getElem?_toList_append]⟩

theorem exchange (within : n < values.size) (le : i ≤ n) : Rearranged (n + 1) values (values.swapIfInBounds n i) := by
  have below : i < values.size := Nat.lt_of_le_of_lt le within
  have swapped : values.swapIfInBounds n i = values.swap n i within below := by
    simp [Array.swapIfInBounds, within, below]
  rw [swapped]
  have rest : (values.swap n i).toList.drop (n + 1) = values.toList.drop (n + 1) := by
    rw [Array.toList_swap, List.drop_set_of_lt (by omega), List.drop_set_of_lt (by omega)]
  have perm := (Array.swap_perm within below).toList
  rw [← List.take_append_drop (n + 1) (values.swap n i).toList, ← List.take_append_drop (n + 1) values.toList, rest,
    List.perm_append_right_iff] at perm
  exact ⟨perm, rest⟩

end Rearranged

/-- **One more entry to rearrange** is one to choose for the last of the places. -/
theorem rearranged_succ (within : n < values.size) :
    Rearranged (n + 1) values w ↔ ∃ i ≤ n, Rearranged n (values.swapIfInBounds n i) w := by
  constructor
  · intro h
    have last : n < w.size := h.size_eq ▸ within
    have mem : w[n] ∈ w.toList.take (n + 1) := List.mem_take_iff_getElem.2 ⟨n, by simp; omega, by simp⟩
    -- the entry that stands at the last place now stood at some place before
    obtain ⟨i, below, eq⟩ := List.mem_take_iff_getElem.1 (h.first.mem_iff.1 mem)
    have le : i ≤ n := by omega
    have same : w[n]? = (values.swapIfInBounds n i)[n]? := by
      have bound : n < (values.swapIfInBounds n i).size := by simpa using within
      have taken : (values.swapIfInBounds n i)[n] = values[i] := Array.getElem_swapIfInBounds_left (by omega) bound
      rw [Array.getElem?_eq_getElem last, Array.getElem?_eq_getElem bound, taken]
      exact congrArg some eq.symm
    exact ⟨i, le, ((Rearranged.exchange within le).symm.trans h).of_succ same⟩
  · rintro ⟨i, le, h⟩
    exact (Rearranged.exchange within le).trans h.succ

/-- The arrays that the innermost of some calls find. -/
def innermost (calls : List (Nat × Array Nat)) : List (Array Nat) :=
  calls.filterMap fun call => if call.1 = 0 then some call.2 else none

theorem innermost_calls_succ (n : Nat) (values : Array Nat) : innermost (calls (n + 1) values) =
    innermost (calls n values) ++
      (List.range (n + 1)).reverse.flatMap fun i => innermost (calls n (values.swapIfInBounds n i)) := by
  simp [innermost, calls, List.filterMap_append, List.filterMap_flatMap]

theorem length_innermost : ∀ (n : Nat) (values : Array Nat), (innermost (calls n values)).length = (n + 1)!
  | 0, _ => rfl
  | n + 1, values => by
    rw [innermost_calls_succ, List.length_append, List.length_flatMap]
    simp only [length_innermost n, sum_places, Nat.factorial_succ (n + 1)]
    ring

/-- **The innermost calls find the rearrangements** of the first entries, all of them and no others. -/
theorem mem_innermost : ∀ {n : Nat} {values w : Array Nat}, n ≤ values.size →
    (w ∈ innermost (calls n values) ↔ Rearranged n values w)
  | 0, values, w, _ => by
    rw [rearranged_zero]
    exact List.mem_singleton
  | n + 1, values, w, within => by
    have inner (i : Nat) : w ∈ innermost (calls n (values.swapIfInBounds n i)) ↔
        Rearranged n (values.swapIfInBounds n i) w := mem_innermost (by rw [Array.size_swapIfInBounds]; omega)
    rw [innermost_calls_succ, List.mem_append, List.mem_flatMap]
    constructor
    · rintro (before | ⟨i, place, found⟩)
      · exact ((mem_innermost (by omega)).1 before).succ
      · exact (rearranged_succ within).2 ⟨i, mem_places.1 place, (inner i).1 found⟩
    · intro h
      -- the turns find all of them, so what the call before the loop finds need not be asked
      obtain ⟨i, le, h⟩ := (rearranged_succ within).1 h
      exact .inr ⟨i, mem_places.2 le, (inner i).2 h⟩

/-! ## Watching a permuter -/

def watch (k : Nat) (values : Array Nat) (s : UInt64 × List (Array Nat)) : Checked (UInt64 × List (Array Nat)) := do
  return (← Checked.succ s.1, if k = 0 then s.2 ++ [values] else s.2)

/-- **Permuting with an eye on the array**: the permuter afterwards, and the arrays that its innermost calls find. -/
def watched (n : Nat) (p : Permuter) : Checked (Permuter × List (Array Nat)) := do
  let (values, count, seen) ← walk watch n (p.values, p.count, [])
  return (⟨values, count⟩, seen)

theorem innermost_cons (call : Nat × Array Nat) (calls : List (Nat × Array Nat)) (seen : List (Array Nat)) :
    (if call.1 = 0 then seen ++ [call.2] else seen) ++ innermost calls = seen ++ innermost (call :: calls) := by
  by_cases last : call.1 = 0 <;> simp [innermost, last]

theorem entered_record : ∀ (calls : List (Nat × Array Nat)) (seen : List (Array Nat)),
    entered (fun k values seen => .ok (if k = 0 then seen ++ [values] else seen)) calls seen = .ok (seen ++ innermost calls)
  | [], seen => by rw [innermost, List.filterMap_nil, List.append_nil]; rfl
  | call :: calls, seen => by rw [entered_cons, Checked.ok_bind, entered_record calls, innermost_cons]

theorem entered_watch : ∀ (calls : List (Nat × Array Nat)) (count : UInt64) (seen : List (Array Nat)),
    entered watch calls (count, seen) =
      (entered (fun _ _ count => Checked.succ count) calls count).map (·, seen ++ innermost calls)
  | [], count, seen => by rw [innermost, List.filterMap_nil, List.append_nil]; rfl
  | call :: calls, count, seen => by
    rw [entered_cons, entered_cons, watch]
    cases Checked.succ count with
    | error fault => rfl
    | ok count =>
      rw [Checked.ok_bind, Checked.ok_bind, pure_bind, entered_watch calls, innermost_cons]

theorem arrangements_eq (within : n ≤ values.size) : arrangements n values = .ok (innermost (calls n values)) := by
  rw [arrangements, walk_eq within, entered_record]
  rfl

/-- Watching a permuter does not change what it does. -/
theorem watched_eq (p : Permuter) (within : n ≤ p.values.size) :
    p.watched n = (p.permute n).map (·, innermost (calls n p.values)) := by
  rw [watched, permute, walk_eq within, walk_eq within, entered_watch]
  cases entered (fun _ _ count => Checked.succ count) (calls n p.values) p.count <;> rfl

/-- **Permuting visits every rearrangement.**  The arrays found by the innermost calls, whatever the array is and however
many of its entries are permuted, are those with just these entries in another order, all of them and no others, and
there are `(n + 1)!` such calls.  A permuter finds the same ones while it counts. -/
theorem arrangements_rearranged (p : Permuter) (within : n ≤ p.values.size) :
    ∃ seen, arrangements n p.values = .ok seen ∧ p.watched n = (p.permute n).map (·, seen) ∧
      seen.length = (n + 1)! ∧ ∀ w, w ∈ seen ↔
        (w.toList.take n).Perm (p.values.toList.take n) ∧ w.toList.drop n = p.values.toList.drop n := by
  refine ⟨innermost (calls n p.values), arrangements_eq within, watched_eq p within, length_innermost n p.values,
    fun w => ?_⟩
  rw [mem_innermost within]
  exact ⟨fun h => ⟨h.first, h.rest⟩, fun h => ⟨h.1, h.2⟩⟩

/-- Permuting two of three entries finds the array with these exchanged among its six, and none with the third moved. -/
theorem arrangements_rearranged_two : 2 ≤ 3 ∧ ∃ seen, arrangements 2 #[4, 9, 7] = .ok seen ∧ seen.length = 3! ∧
    #[9, 4, 7] ∈ seen ∧ #[9, 7, 4] ∉ seen := by
  obtain ⟨seen, found, -, length, mem⟩ := arrangements_rearranged ⟨#[4, 9, 7], 0⟩ (n := 2) (by decide)
  refine ⟨by decide, seen, found, length, (mem _).2 ⟨?_, rfl⟩, fun there => ?_⟩
  · exact List.Perm.swap 4 9 []
  · exact absurd ((mem _).1 there).2 (by decide)

end BenchSuite.Permuter
