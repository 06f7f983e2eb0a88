import Mathlib.Tactic.Ring
import BenchSuite.Proofs.Bounce.Box
/-!
# Walls are hit at intervals

A ball that was turned around at a wall leaves it, and is too slow to cross the box in three steps (`clear_of_turns`):
along one axis two turns are four steps apart at least (`turns_apart`).  So a ball is turned around at most once in
four steps along each axis (`count_turns_le`), and this bounds the hits of any number of balls (`bounces_apart`).
-/
namespace BenchSuite

namespace Ball

/-- A coordinate that is still in the box after a number of steps at its speed. -/
def Clear (steps : Nat) (position speed : Int32) : Prop :=
  0 ≤ position.toInt + steps * speed.toInt ∧ position.toInt + steps * speed.toInt ≤ limit.toInt

variable {sizes : Axis → Nat} {b : Ball} {axis : Axis}

/-- **A ball that was turned around** has three steps before it without another turn. -/
theorem clear_of_turns (inside : Within sizes b) (turned : b.turns axis = true) :
    Clear 3 (b.next.position axis) (b.next.speed axis) := by
  have slid := inside.step.2.2 axis
  have slow : sizes axis ≤ 150 := (inside axis).slow
  have top : limit.toInt = 500 := limit_toInt
  rw [turned] at slid
  rcases slide_cases (inside axis) with ⟨p, on, -⟩ | ⟨v, back, speed, -⟩ | ⟨v, back, speed, -⟩
  · simp [on] at slid
  · obtain ⟨place, same⟩ : limit = b.next.position axis ∧ v = b.next.speed axis := by simpa [back] using slid
    rw [← place, ← same]
    exact ⟨by omega, by omega⟩
  · obtain ⟨place, same⟩ : 0 = b.next.position axis ∧ v = b.next.speed axis := by simpa [back] using slid
    rw [← place, ← same]
    simp only [Clear, Int32.toInt_zero]
    exact ⟨by omega, by omega⟩

theorem turns_of_clear {n : Nat} (inside : Within sizes b) (clear : Clear (n + 1) (b.position axis) (b.speed axis)) :
    b.turns axis = false ∧ Clear n (b.next.position axis) (b.next.speed axis) := by
  have slid := inside.step.2.2 axis
  obtain ⟨low, high, -, -⟩ := inside axis
  obtain ⟨ahead, below⟩ := clear
  -- the first of the steps lies between where the ball is and where it is after all of them
  have split : ((n + 1 : Nat) : Int) * (b.speed axis).toInt = n * (b.speed axis).toInt + (b.speed axis).toInt := by
    push_cast
    ring
  have between : 0 ≤ (b.position axis).toInt + (b.speed axis).toInt ∧
      (b.position axis).toInt + (b.speed axis).toInt ≤ limit.toInt := by
    rcases Int.le_total 0 (b.speed axis).toInt with up | down
    · have := Int.mul_nonneg (Int.natCast_nonneg n) up
      omega
    · have := Int.mul_nonpos_of_nonneg_of_nonpos (Int.natCast_nonneg n) down
      omega
  rcases slide_cases (inside axis) with ⟨p, on, place, -⟩ | ⟨v, -, -, far⟩ | ⟨v, -, -, near⟩
  · obtain ⟨same, kept, none⟩ : p = b.next.position axis ∧ b.speed axis = b.next.speed axis ∧ false = b.turns axis := by
      simpa [on] using slid
    rw [← same, ← kept]
    exact ⟨none.symm, by omega, by omega⟩
  · omega
  · omega

theorem turns_iterate_of_clear : ∀ {n : Nat} {b : Ball}, Within sizes b → Clear n (b.position axis) (b.speed axis) →
    ∀ k < n, (next^[k] b).turns axis = false
  | 0, _, _, _, k, h => absurd h (Nat.not_lt_zero k)
  | n + 1, b, inside, clear, k, h => by
    obtain ⟨none, rest⟩ := turns_of_clear inside clear
    cases k with
    | zero => exact none
    | succ k => exact turns_iterate_of_clear inside.next rest k (by omega)

/-- **Two turns along one axis are four steps apart at least.** -/
theorem turns_apart (inside : Within sizes b) {i j : Nat} (less : i < j) (first : (next^[i] b).turns axis = true)
    (second : (next^[j] b).turns axis = true) : i + 4 ≤ j := by
  by_contra close
  obtain ⟨k, rfl⟩ : ∃ k, j = k + (i + 1) := ⟨j - (i + 1), by omega⟩
  have clear := clear_of_turns (inside.iterate i) first
  have none := turns_iterate_of_clear (inside.iterate i).next clear k (by omega)
  rw [Function.iterate_add_apply, Function.iterate_succ_apply', none] at second
  cases second

/-- Steps that are four apart are at most one in four. -/
theorem count_le_of_apart {p : Nat → Prop} [DecidablePred p] (apart : ∀ i j, i < j → p i → p j → i + 4 ≤ j) (n : Nat) :
    Nat.count p n ≤ (n + 3) / 4 := by
  rw [Nat.count_eq_card_filter_range, ← Finset.card_range ((n + 3) / 4)]
  refine Finset.card_le_card_of_injOn (· / 4) (fun i hi => ?_) fun i hi j hj same => ?_
  · have := Finset.mem_range.1 (Finset.mem_filter.1 hi).1
    exact Finset.mem_coe.2 (Finset.mem_range.2 (by dsimp only; omega))
  · have pi := (Finset.mem_filter.1 hi).2
    have pj := (Finset.mem_filter.1 hj).2
    dsimp only at same
    rcases Nat.lt_trichotomy i j with less | eq | more
    · have := apart i j less pi pj
      omega
    · exact eq
    · have := apart j i more pj pi
      omega

/-- **A ball is turned around at most once in four steps** along each axis. -/
theorem count_turns_le (inside : Within sizes b) (axis : Axis) (n : Nat) :
    Nat.count (fun t => (next^[t] b).turns axis) n ≤ (n + 3) / 4 :=
  count_le_of_apart (fun _ _ less first second => turns_apart inside less first second) n

theorem count_bounces_le (inside : Within sizes b) (n : Nat) :
    Nat.count (fun t => (next^[t] b).bounces) n ≤ 2 * ((n + 3) / 4) := by
  have across := count_turns_le inside .across n
  have up := count_turns_le inside .up n
  have either : Nat.count (fun t => (next^[t] b).bounces) n ≤
      Nat.count (fun t => (next^[t] b).turns .across) n + Nat.count (fun t => (next^[t] b).turns .up) n := by
    simp only [Nat.count_eq_card_filter_range]
    refine le_trans (Finset.card_le_card fun t ht => ?_) (Finset.card_union_le _ _)
    obtain ⟨within, hit⟩ := Finset.mem_filter.1 ht
    rw [(inside.iterate t).step.2.1, Bool.or_eq_true] at hit
    simpa [Finset.mem_range.1 within] using hit
  omega

end Ball

/-- **Walls are hit at intervals.**  Whichever ball of a run is looked at, two of its turns along one axis are at least
four steps apart.  So a run with room on its counter comes to twice the number of balls, for each four steps that are
begun, at most. -/
theorem bounces_apart (balls steps : Nat) : ∃ scene, drawBalls balls .fresh = .ok scene ∧ scene.length = balls ∧
    (∀ t, stepMany t scene 0 = (counted (hitsIn t scene)).map fun hits => (scene.map Ball.next^[t], hits)) ∧
    (∀ b ∈ scene, ∀ axis i j, i < j → (Ball.next^[i] b).turns axis = true → (Ball.next^[j] b).turns axis = true →
      i + 4 ≤ j) ∧
    (balls * steps < UInt64.size → ∃ hits, countBounces balls steps = .ok hits ∧
      hits.toNat ≤ 2 * balls * ((steps + 3) / 4)) := by
  obtain ⟨scene, drawn, length, boxed, count⟩ := countBounces_eq balls steps
  refine ⟨scene, drawn, length, stepMany_start boxed, fun b hb axis i j less first second => ?_, fun room => ?_⟩
  · obtain ⟨sizes, inside⟩ := boxed b hb
    exact Ball.turns_apart inside less first second
  · have le : hitsIn steps scene ≤ scene.length * steps := hitsIn_le fun _ _ => Nat.count_le _
    have few : hitsIn steps scene ≤ scene.length * (2 * ((steps + 3) / 4)) := hitsIn_le fun b hb => by
      obtain ⟨sizes, inside⟩ := boxed b hb
      exact Ball.count_bounces_le inside steps
    rw [length] at le few
    have fits := le.trans_lt room
    refine ⟨_, count.trans (if_pos fits), ?_⟩
    calc (UInt64.ofNat (hitsIn steps scene)).toNat = hitsIn steps scene := UInt64.toNat_ofNat_of_lt' fits
      _ ≤ balls * (2 * ((steps + 3) / 4)) := few
      _ = 2 * balls * ((steps + 3) / 4) := by ring

/-- The second of three balls is turned around at its first step and at its sixth, and three balls hit walls 60 times
at most in forty steps. -/
theorem bounces_apart_second : ∃ scene b, drawBalls 3 .fresh = .ok scene ∧ scene[1]? = some b ∧
    (b.turns .across = true ∧ (Ball.next^[5] b).turns .across = true ∧ 0 + 4 ≤ 5) ∧
    ∃ hits, countBounces 3 40 = .ok hits ∧ hits.toNat ≤ 60 := by
  obtain ⟨scene, drawn, -, -, apart, count⟩ := bounces_apart 3 40
  obtain rfl : firstBalls = scene := Except.ok.inj (drawBalls_three.symm.trans drawn)
  obtain ⟨hits, run, few⟩ := count (by decide)
  have first : (⟨40, 445, -104, 97⟩ : Ball).turns .across = true := by decide +kernel
  have second : (Ball.next^[5] ⟨40, 445, -104, 97⟩).turns .across = true := by decide +kernel
  exact ⟨_, _, drawn, rfl, ⟨first, second, apart _ (by decide) .across 0 5 (by decide) first second⟩, hits, run, few⟩

end BenchSuite
