import BenchSuite.Proofs.Sieve.Scan
/-!
# Flags that the sieve has settled

Where some flags are not set at the start, it is not the primes that are left.  A number that is no candidate strikes
out nothing, so what is left of a number depends on what is left of its divisors: it is a candidate in the end just
when it was one at the start and no proper divisor from 2 up is one in the end (`Settled`).  There is only one way to
settle flags (`Settled.unique`), and settled flags are settled for themselves (`Settled.self`), so a second sieve
finds nothing to do (`sieve_settles`).
-/
namespace BenchSuite.Sieve

open Finset (Icc)
open scoped Finset

variable {start flags flags' : Array Bool} {k : Nat}

/-- **Flags that are settled** for those at the start. -/
structure Settled (start flags : Array Bool) : Prop where
  size : flags.size = start.size
  candidate_iff : ∀ k, 1 ≤ k →
    (Candidate flags k ↔ Candidate start k ∧ ∀ d, 2 ≤ d → d < k → d ∣ k → ¬ Candidate flags d)

theorem flag_eq_of_candidate_iff (size : flags.size = flags'.size) (same : Candidate flags k ↔ Candidate flags' k) :
    flags[k - 1]? = flags'[k - 1]? := by
  by_cases within : k - 1 < flags.size
  · have within' : k - 1 < flags'.size := size ▸ within
    simpa [Candidate, within, within'] using same
  · have beyond' : ¬ k - 1 < flags'.size := size ▸ within
    simp [within, beyond']

/-- **Flags are settled in one way only.** -/
theorem Settled.unique (settled : Settled start flags) (settled' : Settled start flags') : flags = flags' := by
  have same : ∀ k, 1 ≤ k → (Candidate flags k ↔ Candidate flags' k) := by
    -- the condition on a number asks about smaller numbers only
    intro k
    induction k using Nat.strong_induction_on with
    | h k ih =>
      intro one
      rw [settled.candidate_iff k one, settled'.candidate_iff k one]
      refine and_congr_right fun _ => forall_congr' fun d => forall_congr' fun two => forall_congr' fun proper => ?_
      rw [ih d proper (by omega)]
  refine Array.ext_getElem? fun i => ?_
  exact flag_eq_of_candidate_iff (settled.size.trans settled'.size.symm) (same (i + 1) (by omega))

theorem Settled.self (settled : Settled start flags) : Settled flags flags where
  size := rfl
  candidate_iff k one := (and_iff_left_of_imp fun there => ((settled.candidate_iff k one).1 there).2).symm

theorem Settled.flag_one (settled : Settled start flags) : flags[0]? = start[0]? := by
  refine flag_eq_of_candidate_iff settled.size (k := 1) ?_
  rw [settled.candidate_iff 1 le_rfl]
  exact and_iff_left fun d two less => by omega

theorem sieve_settled (start : Array Bool) : ∃ flags, Settled start flags ∧
    sieve start = tally flags #{k ∈ Icc 2 start.size | Candidate flags k} := by
  obtain ⟨flags, size, left, run⟩ := sieve_eq start
  exact ⟨flags, ⟨size, left⟩, run⟩

theorem sieve_of_settled (settled : Settled start flags) :
    sieve flags = tally flags #{k ∈ Icc 2 start.size | Candidate flags k} := by
  obtain ⟨flags', settled', run⟩ := sieve_settled flags
  obtain rfl := settled'.unique settled.self
  rw [run, settled.size]

/-- **The sieve of any flags.**  The flag of 1 stays as it is, a number from 2 up is a candidate in the end just when
it was one at the start and no proper divisor from 2 up is one in the end, and the answer is how many candidates are
left from 2 up.  A second sieve answers the same and changes no flag.  It is only the counter that can go wrong, and
not where the length is itself a machine word. -/
theorem sieve_settles (start : Array Bool) : ∃ (flags : Array Bool) (left : Nat), flags.size = start.size ∧
    flags[0]? = start[0]? ∧
    (∀ k, 2 ≤ k → (Candidate flags k ↔
      Candidate start k ∧ ∀ d, 2 ≤ d → d < k → d ∣ k → ¬ Candidate flags d)) ∧
    left = #{k ∈ Icc 2 start.size | Candidate flags k} ∧
    sieve start = tally flags left ∧ sieve flags = tally flags left ∧
    (start.size < UInt64.size → ∃ count, count.toNat = left ∧ sieve start = .ok (flags, count) ∧
      sieve flags = .ok (flags, count)) := by
  obtain ⟨flags, settled, run⟩ := sieve_settled start
  refine ⟨flags, _, settled.size, settled.flag_one, fun k two => settled.candidate_iff k (by omega), rfl, run,
    sieve_of_settled settled, fun room => ?_⟩
  have fits := card_filter_lt (Candidate flags) room
  exact ⟨_, UInt64.toNat_ofNat_of_lt' fits, run.trans (if_pos fits), (sieve_of_settled settled).trans (if_pos fits)⟩

/-- Without 2 and 5 at the start, neither does 2 strike out 4 nor 5 the 10. -/
theorem sieve_settles_gaps :
    sieve #[true, false, true, true, false, true, true, true, true, true] =
      .ok (#[true, false, true, true, false, false, true, false, false, true], 4) ∧
    sieve #[true, false, true, true, false, false, true, false, false, true] =
      .ok (#[true, false, true, true, false, false, true, false, false, true], 4) := by
  obtain ⟨flags, left, -, -, -, -, -, -, sieved⟩ :=
    sieve_settles #[true, false, true, true, false, true, true, true, true, true]
  obtain ⟨count, -, once, twice⟩ := sieved (by decide)
  have run : sieve #[true, false, true, true, false, true, true, true, true, true] =
      .ok (#[true, false, true, true, false, false, true, false, false, true], 4) := by
    decide +kernel
  obtain ⟨rfl, rfl⟩ := Prod.mk.inj (Except.ok.inj (once.symm.trans run))
  exact ⟨once, twice⟩

end BenchSuite.Sieve
