import Mathlib.Data.Nat.Prime.Basic
import BenchSuite.Proofs.Sieve.Scan
/-!
# The sieve finds the primes

Where all numbers are candidates at the start, those left from 2 up are the primes, since a number that is not prime
has a smaller prime divisor (`candidate_iff_prime`).  So the sieve counts the primes up to the length of its flags, and
no index leaves them (`sieve_primes`).
-/
namespace BenchSuite.Sieve

open Finset (Icc Ico)
open scoped Finset

variable {flags : Array Bool} {n k : Nat}

theorem candidate_replicate (pos : 1 ≤ k) : Candidate (Array.replicate n true) k ↔ k ≤ n := by
  simp [Candidate, Array.getElem?_replicate]
  omega

theorem candidate_iff_prime (sifted : ∀ k, 1 ≤ k → (Candidate flags k ↔
    k ≤ n ∧ ∀ d, 2 ≤ d → d < k → d ∣ k → ¬ Candidate flags d)) (two : 2 ≤ k) :
    Candidate flags k ↔ k ≤ n ∧ k.Prime := by
  induction k using Nat.strong_induction_on with
  | h k ih =>
    rw [sifted k (by omega)]
    refine and_congr_right fun le => ⟨fun all => ?_, fun prime d least proper divides => ?_⟩
    · by_contra composite
      have prime : k.minFac.Prime := Nat.minFac_prime (by omega)
      have proper : k.minFac < k := (Nat.not_prime_iff_minFac_lt two).1 composite
      refine all k.minFac prime.two_le proper k.minFac_dvd ?_
      exact (ih k.minFac proper prime.two_le).2 ⟨by omega, prime⟩
    · rcases (Nat.dvd_prime prime).1 divides with one | self <;> omega

theorem card_primes_lt (room : n < UInt64.size) : #{p ∈ Icc 2 n | p.Prime} < UInt64.size :=
  card_filter_lt Nat.Prime room

/-- **The sieve counts the primes.**  For every length the flags left set are those of 1 and of the primes, and the
answer is how many primes there are; it is no index that can go wrong, only a counter with more than `2 ^ 64 - 1`
primes to count.  A length that is itself a machine word leaves the counter room. -/
theorem sieve_primes (n : Nat) : ∃ flags : Array Bool, flags.size = n ∧
    (∀ k, 1 ≤ k → k ≤ n → (flags[k - 1]? = some true ↔ k = 1 ∨ k.Prime)) ∧
    sieve (Array.replicate n true) = tally flags #{p ∈ Icc 2 n | p.Prime} ∧
    (n < UInt64.size → ∃ count, sieve (Array.replicate n true) = .ok (flags, count) ∧
      count.toNat = #{p ∈ Icc 2 n | p.Prime}) := by
  obtain ⟨flags, size, left, run⟩ := sieve_eq (Array.replicate n true)
  rw [Array.size_replicate] at size run
  have sifted : ∀ k, 1 ≤ k → (Candidate flags k ↔ k ≤ n ∧ ∀ d, 2 ≤ d → d < k → d ∣ k → ¬ Candidate flags d) :=
    fun k one => by rw [left k one, candidate_replicate one]
  have counted : candidatesBelow flags (n + 1) = #{p ∈ Icc 2 n | p.Prime} := by
    refine congrArg Finset.card (Finset.filter_congr fun k hk => ?_)
    obtain ⟨two, le⟩ := Finset.mem_Icc.1 hk
    rw [candidate_iff_prime sifted two]
    exact and_iff_right le
  rw [counted] at run
  refine ⟨flags, size, fun k one le => ?_, run, fun room => ?_⟩
  · rcases Nat.eq_or_lt_of_le one with rfl | two
    · refine iff_of_true ((sifted 1 le_rfl).2 ⟨le, fun d two lt => by omega⟩) (.inl rfl)
    · rw [or_iff_right (by omega)]
      exact (candidate_iff_prime sifted two).trans (and_iff_right le)
  · have fits := card_primes_lt room
    exact ⟨_, run.trans (if_pos fits), UInt64.toNat_ofNat_of_lt' fits⟩

example : sieve (Array.replicate 10 true) =
    .ok (#[true, true, true, false, true, false, true, false, false, false], 4) := by
  decide +kernel

end BenchSuite.Sieve
