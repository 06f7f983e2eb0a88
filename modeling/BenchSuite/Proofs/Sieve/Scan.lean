import Mathlib.Data.Finset.Card
import Mathlib.Order.Interval.Finset.Nat
import BenchSuite.Kernel.Sieve
/-!
# What the scan leaves of any flags

`flags[k - 1]` is the flag of `k` (`Candidate`).  When the scan has come to `m`, the numbers below `m` have their last
flags, and a number is a candidate just when it was one at the start and no proper divisor of it from 2 up to `m` is
one (`Sifted`).  Each number of the scan carries this on to the next (`Sifted.next`), whatever the flags were at the
start, and the whole scan answers how many candidates it leaves from 2 up (`sieve_eq`).
-/
namespace BenchSuite.Sieve

open Finset (Ico)
open scoped Finset

variable {start flags flags' : Array Bool} {k i m limit : Nat}

/-- A number whose flag is set. -/
def Candidate (flags : Array Bool) (k : Nat) : Prop := flags[k - 1]? = some true

instance : DecidablePred (Candidate flags) := fun k => inferInstanceAs (Decidable (flags[k - 1]? = some true))

theorem Candidate.le_size (pos : 1 ≤ k) (h : Candidate flags k) : k ≤ flags.size := by
  have := (Array.getElem?_eq_some_iff.1 h).1
  omega

theorem candidate_iff (pos : 1 ≤ k) (within : k ≤ flags.size) : Candidate flags k ↔ flags[k - 1] = true := by
  simp [Candidate, Array.getElem?_eq_getElem (show k - 1 < flags.size by omega)]

/-! ## One number of the scan -/

theorem mem_multiples (pos : 0 < i) : k ∈ multiples i limit ↔ i < k ∧ k ≤ limit ∧ i ∣ k := by
  simp only [multiples, List.mem_range']
  constructor
  · rintro ⟨j, below, rfl⟩
    have within : i * (j + 2) ≤ limit :=
      (Nat.mul_le_mul_left i (by omega : j + 2 ≤ limit / i)).trans (Nat.mul_div_le limit i)
    have eq : 2 * i + i * j = i * (j + 2) := by rw [Nat.mul_add, Nat.mul_comm 2, Nat.add_comm]
    exact ⟨by omega, eq ▸ within, eq ▸ Nat.dvd_mul_right i (j + 2)⟩
  · rintro ⟨proper, within, q, rfl⟩
    have two : 2 ≤ q := by
      by_contra small
      have := Nat.mul_le_mul_left i (by omega : q ≤ 1)
      omega
    have most : q ≤ limit / i := (Nat.le_div_iff_mul_le pos).2 (Nat.mul_comm i q ▸ within)
    refine ⟨q - 2, by omega, ?_⟩
    rw [Nat.mul_comm 2, ← Nat.mul_add, Nat.add_sub_cancel' two]

theorem strike_eq (pos : 1 ≤ k) (within : k ≤ flags.size) : ∃ flags', strike flags k = .ok flags' ∧
    flags'.size = flags.size ∧ ∀ j, 1 ≤ j → (Candidate flags' j ↔ Candidate flags j ∧ j ≠ k) := by
  have bound : k - 1 < flags.size := by omega
  refine ⟨_, Checked.replace_eq_ok flags bound false, by simp, fun j one => ?_⟩
  by_cases eq : j = k
  · subst eq
    simp [Candidate, bound]
  · simp [Candidate, Array.getElem?_set_ne bound (show k - 1 ≠ j - 1 by omega), eq]

theorem strike_all : ∀ (ks : List Nat) {flags : Array Bool}, (∀ k ∈ ks, 1 ≤ k ∧ k ≤ flags.size) →
    ∃ flags', ks.foldlM strike flags = .ok flags' ∧ flags'.size = flags.size ∧
      ∀ j, 1 ≤ j → (Candidate flags' j ↔ Candidate flags j ∧ j ∉ ks)
  | [], flags, _ => ⟨flags, rfl, rfl, by simp⟩
  | k :: ks, flags, within => by
    obtain ⟨first, rest⟩ := List.forall_mem_cons.1 within
    obtain ⟨flags₁, run₁, size₁, struck₁⟩ := strike_eq first.1 first.2
    obtain ⟨flags₂, run₂, size₂, struck₂⟩ := strike_all ks (size₁.symm ▸ rest)
    refine ⟨flags₂, ?_, size₂.trans size₁, fun j one => ?_⟩
    · rw [List.foldlM_cons, run₁, Checked.ok_bind, run₂]
    · rw [struck₂ j one, struck₁ j one, List.mem_cons, not_or, and_assoc]

/-- The flags after a number of the scan: a candidate strikes out its proper multiples. -/
structure Struck (flags : Array Bool) (m : Nat) (flags' : Array Bool) : Prop where
  size : flags'.size = flags.size
  candidate_iff : ∀ j, 1 ≤ j → (Candidate flags' j ↔ Candidate flags j ∧ (Candidate flags m → ¬ (m < j ∧ m ∣ j)))

/-- **What a number of the scan comes to**: no index leaves the flags, and a candidate is counted. -/
theorem visit_eq (two : 2 ≤ m) (within : m ≤ flags.size) : ∃ flags', Struck flags m flags' ∧
    ∀ n, visit (flags, n) m = if Candidate flags m then return (flags', ← Checked.succ n) else .ok (flags', n) := by
  have looked : ∀ n, visit (flags, n) m = if Candidate flags m
      then return (← (multiples m flags.size).foldlM strike flags, ← Checked.succ n) else .ok (flags, n) := fun n => by
    simp only [visit, Checked.get_eq_ok flags (show m - 1 < flags.size by omega), Checked.ok_bind,
      candidate_iff (Nat.le_of_succ_le two) within]
    rfl
  by_cases candidate : Candidate flags m
  · have inside : ∀ k ∈ multiples m flags.size, 1 ≤ k ∧ k ≤ flags.size := fun k hk => by
      have := (mem_multiples (by omega)).1 hk
      omega
    obtain ⟨flags', run, size, struck⟩ := strike_all _ inside
    refine ⟨flags', ⟨size, fun j one => ?_⟩, fun n => ?_⟩
    · rw [struck j one, mem_multiples (by omega)]
      have le : Candidate flags j → j ≤ flags.size := Candidate.le_size one
      tauto
    · rw [looked, if_pos candidate, if_pos candidate, run]
      rfl
  · refine ⟨flags, ⟨rfl, fun j _ => by simp [candidate]⟩, fun n => ?_⟩
    rw [looked, if_neg candidate, if_neg candidate]

/-- No number up to `m` is struck out by `m`. -/
theorem Struck.candidate_iff_of_le (struck : Struck flags m flags') (pos : 1 ≤ k) (le : k ≤ m) :
    Candidate flags' k ↔ Candidate flags k := by
  rw [struck.candidate_iff k pos]
  exact and_iff_left fun _ h => by omega

/-! ## The whole scan -/

/-- **The flags when the scan has come to `m`.** -/
structure Sifted (start : Array Bool) (m : Nat) (flags : Array Bool) : Prop where
  size : flags.size = start.size
  candidate_iff : ∀ k, 1 ≤ k → (Candidate flags k ↔
    Candidate start k ∧ ∀ d, 2 ≤ d → d < m → d < k → d ∣ k → ¬ Candidate flags d)

theorem Sifted.next (sifted : Sifted start m flags) (two : 2 ≤ m) (struck : Struck flags m flags') :
    Sifted start (m + 1) flags' where
  size := struck.size.trans sifted.size
  candidate_iff k one := by
    have low : ∀ d, 2 ≤ d → d ≤ m → (Candidate flags' d ↔ Candidate flags d) := fun d pos le =>
      struck.candidate_iff_of_le (by omega) le
    rw [struck.candidate_iff k one, sifted.candidate_iff k one, and_assoc]
    refine and_congr_right fun _ => ⟨fun ⟨before, now⟩ d pos lt proper divides there => ?_, fun all => ⟨?_, ?_⟩⟩
    · rw [low d pos (by omega)] at there
      rcases Nat.lt_succ_iff_lt_or_eq.1 lt with lt | rfl
      · exact before d pos lt proper divides there
      · exact now there ⟨proper, divides⟩
    · intro d pos lt proper divides there
      exact all d pos (by omega) proper divides ((low d pos (by omega)).2 there)
    · intro there ⟨proper, divides⟩
      exact all m two (by omega) proper divides ((low m two le_rfl).2 there)

/-- How many candidates there are from 2 up to `m`. -/
def candidatesBelow (flags : Array Bool) (m : Nat) : Nat := #{k ∈ Ico 2 m | Candidate flags k}

/-- Flags with a count, when the counter has room for it. -/
def tally (flags : Array Bool) (n : Nat) : Checked (Array Bool × UInt64) :=
  if n < UInt64.size then .ok (flags, .ofNat n) else .error .overflow

theorem Struck.candidatesBelow_succ (struck : Struck flags m flags') (two : 2 ≤ m) :
    candidatesBelow flags' (m + 1) = candidatesBelow flags m + if Candidate flags m then 1 else 0 := by
  have same : {k ∈ Ico 2 (m + 1) | Candidate flags' k} = {k ∈ Ico 2 (m + 1) | Candidate flags k} := by
    refine Finset.filter_congr fun k hk => ?_
    obtain ⟨low, high⟩ := Finset.mem_Ico.1 hk
    exact struck.candidate_iff_of_le (by omega) (by omega)
  rw [candidatesBelow, candidatesBelow, same, Nat.Ico_succ_right_eq_insert_Ico two, Finset.filter_insert]
  split
  · rw [Finset.card_insert_of_notMem (by simp)]
  · rfl

theorem card_filter_lt {n : Nat} (p : Nat → Prop) [DecidablePred p] (room : n < UInt64.size) :
    #{k ∈ Finset.Icc 2 n | p k} < UInt64.size := by
  refine Nat.lt_of_le_of_lt (Finset.card_filter_le _ _) ?_
  rw [Nat.card_Icc]
  omega

theorem tally_visit {n : Nat} (visited : ∀ n, visit (flags, n) m =
      if Candidate flags m then return (flags', ← Checked.succ n) else .ok (flags', n)) :
    (tally flags n >>= fun state => visit state m) = tally flags' (n + if Candidate flags m then 1 else 0) := by
  by_cases room : n < UInt64.size
  · have toNat : (UInt64.ofNat n).toNat = n := UInt64.toNat_ofNat_of_lt' room
    simp only [tally, if_pos room, Checked.ok_bind, visited]
    split
    · simp only [Checked.succ, toNat, UInt64.ofNat_add]
      split <;> rfl
    · simp [room]
  · have full : ¬ n + (if Candidate flags m then 1 else 0) < UInt64.size := by omega
    simp only [tally, if_neg room, if_neg full]
    rfl

theorem scan_eq (start : Array Bool) : ∀ j, j ≤ start.size - 1 → ∃ flags, Sifted start (j + 2) flags ∧
    (List.range' 2 j).foldlM visit (start, 0) = tally flags (candidatesBelow flags (j + 2))
  | 0, _ => by
    have none : candidatesBelow start (0 + 2) = 0 := by simp [candidatesBelow]
    refine ⟨start, ⟨rfl, fun k _ => (and_iff_left fun d two lt => by omega).symm⟩, ?_⟩
    rw [none]
    rfl
  | j + 1, within => by
    obtain ⟨flags, sifted, run⟩ := scan_eq start j (by omega)
    have bound : j + 2 ≤ flags.size := by
      rw [sifted.size]
      omega
    obtain ⟨flags', struck, visited⟩ := visit_eq (by omega) bound
    refine ⟨flags', sifted.next (by omega) struck, ?_⟩
    rw [List.range'_concat, List.foldlM_append, run, struck.candidatesBelow_succ (by omega), ← tally_visit visited]
    simp [Nat.add_comm 2]

/-- **The sieve of any flags.**  A number is a candidate in the end just when it was one at the start and none of its
proper divisors from 2 up is one, and the answer is how many candidates there are from 2 up. -/
theorem sieve_eq (start : Array Bool) : ∃ flags, flags.size = start.size ∧
    (∀ k, 1 ≤ k → (Candidate flags k ↔ Candidate start k ∧ ∀ d, 2 ≤ d → d < k → d ∣ k → ¬ Candidate flags d)) ∧
    sieve start = tally flags (candidatesBelow flags (start.size + 1)) := by
  obtain ⟨flags, sifted, run⟩ := scan_eq start (start.size - 1) le_rfl
  refine ⟨flags, sifted.size, fun k one => ?_, ?_⟩
  · rw [sifted.candidate_iff k one]
    refine and_congr_right fun there => ?_
    have le := there.le_size one
    exact ⟨fun h d two proper => h d two (by omega) proper, fun h d two _ => h d two⟩
  · rw [sieve, run]
    cases start.size with
    | zero => simp [candidatesBelow]
    | succ n => rfl

end BenchSuite.Sieve
