import Mathlib.Algebra.Order.BigOperators.Group.Finset
import BenchSuite.Proofs.Bounce.Box
import BenchSuite.Proofs.Random.Stream
/-!
# Each ball bounces alone

All balls of a scene are drawn from one stream, four values for each (`drawBalls_eq`), and are moved in turns.  Still no
ball depends on how many there are: the hits of a scene are those that its balls make alone, summed (`countBounces_eq_sum`).
So one ball more, or one step more, never takes a hit away (`bounces_by_ball`).
-/
namespace BenchSuite

namespace Ball

/-- The ball that four values make: where it is from the first two, how fast it is from the last two. -/
def ofDraws (a b c d : UInt32) : Ball where
  x := .ofInt (a.toNat % 500)
  y := .ofInt (b.toNat % 500)
  xVel := .ofInt (c.toNat % 300 - 150)
  yVel := .ofInt (d.toNat % 300 - 150)

/-- **The ball with a number**, from the four values of a fresh stream that are its own. -/
def numbered (k : Nat) : Ball :=
  ofDraws (Random.fresh.value (4 * k)) (Random.fresh.value (4 * k + 1)) (Random.fresh.value (4 * k + 2))
    (Random.fresh.value (4 * k + 3))

/-- How often a ball hits a wall in a number of steps. -/
def hits (b : Ball) (steps : Nat) : Nat := Nat.count (fun t => (Ball.next^[t] b).bounces) steps

theorem int32_eq {n : Int} (low : -2147483648 ≤ n) (high : n ≤ 2147483647) : Checked.int32 n = .ok (.ofInt n) :=
  if_pos ⟨low, high⟩

theorem int32_speed (v : UInt32) :
    (Checked.int32 (v.toNat % 300) >>= fun d => Checked.add32 d (-150)) = .ok (.ofInt (v.toNat % 300 - 150)) := by
  have toInt : (Int32.ofInt (v.toNat % 300)).toInt = v.toNat % 300 := Int32.toInt_ofInt_of_le (by omega) (by omega)
  have offset : (-150 : Int32).toInt = -150 := rfl
  rw [int32_eq (by omega) (by omega), Checked.ok_bind, Checked.add32, toInt, offset]
  exact int32_eq (by omega) (by omega)

/-- **A ball is made of the next four values**, in their order. -/
theorem draw_eq (r : Random) :
    draw r = .ok (ofDraws (r.value 0) (r.value 1) (r.value 2) (r.value 3), r.drop 4) := by
  have place (v : UInt32) : Checked.int32 (v.toNat % 500) = .ok (.ofInt (v.toNat % 500)) :=
    int32_eq (by omega) (by omega)
  have split : draw r = do
      let x ← Checked.int32 ((r.value 0).toNat % 500)
      let y ← Checked.int32 ((r.value 1).toNat % 500)
      let xVel ← Checked.int32 ((r.value 2).toNat % 300) >>= fun d => Checked.add32 d (-150)
      let yVel ← Checked.int32 ((r.value 3).toNat % 300) >>= fun d => Checked.add32 d (-150)
      return (⟨x, y, xVel, yVel⟩, r.drop 4) := by
    simp only [bind_assoc]
    rfl
  simp only [split, place, int32_speed, Checked.ok_bind]
  rfl

theorem draw_numbered (k : Nat) : draw (Random.fresh.drop (4 * k)) = .ok (numbered k, Random.fresh.drop (4 * k + 4)) := by
  rw [draw_eq, ← Random.drop_add]
  simp only [Random.value_drop, Nat.add_zero, numbered]

end Ball

/-- **The balls are drawn one after the other**, each from its own four values. -/
theorem drawBalls_eq : ∀ n k, drawBalls n (Random.fresh.drop (4 * k)) = .ok ((List.range' k n).map Ball.numbered)
  | 0, _ => rfl
  | n + 1, k => by
    have rest : drawBalls n (Random.fresh.drop (4 * k + 4)) = .ok ((List.range' (k + 1) n).map Ball.numbered) :=
      drawBalls_eq n (k + 1)
    simp only [drawBalls, Ball.draw_numbered, rest, Checked.ok_bind]
    rfl

theorem drawBalls_fresh (n : Nat) : drawBalls n .fresh = .ok ((List.range n).map Ball.numbered) := by
  rw [List.range_eq_range']
  exact drawBalls_eq n 0

/-- **The hits of a scene are those of its balls**, each of them alone. -/
theorem countBounces_eq_sum (balls steps : Nat) :
    countBounces balls steps = counted (∑ k ∈ Finset.range balls, (Ball.numbered k).hits steps) := by
  obtain ⟨scene, drawn, -, -, count⟩ := countBounces_eq balls steps
  obtain rfl : (List.range balls).map Ball.numbered = scene :=
    Except.ok.inj ((drawBalls_fresh balls).symm.trans drawn)
  rw [count, hitsIn, List.map_map]
  rfl

theorem stepMany_numbered (k steps : Nat) : stepMany steps [Ball.numbered k] 0 =
    (counted ((Ball.numbered k).hits steps)).map fun hits => ([Ball.next^[steps] (Ball.numbered k)], hits) := by
  obtain ⟨b, sizes, drawn, inside⟩ := Ball.within_draw (Random.fresh.drop (4 * k))
  obtain ⟨rfl, -⟩ : Ball.numbered k = b ∧ _ := by simpa [Ball.draw_numbered] using drawn
  have boxed : Boxed [Ball.numbered k] := List.forall_mem_singleton.2 ⟨sizes, inside⟩
  exact stepMany_start boxed steps

theorem Ball.hits_le (b : Ball) (steps : Nat) : b.hits steps ≤ steps := Nat.count_le _

theorem Ball.hits_mono (b : Ball) : Monotone b.hits := Nat.count_monotone _

theorem sum_hits_mono {balls balls' steps steps' : Nat} (fewer : balls ≤ balls') (shorter : steps ≤ steps') :
    ∑ k ∈ Finset.range balls, (Ball.numbered k).hits steps ≤ ∑ k ∈ Finset.range balls', (Ball.numbered k).hits steps' :=
  calc ∑ k ∈ Finset.range balls, (Ball.numbered k).hits steps
      ≤ ∑ k ∈ Finset.range balls, (Ball.numbered k).hits steps' :=
        Finset.sum_le_sum fun k _ => (Ball.numbered k).hits_mono shorter
    _ ≤ ∑ k ∈ Finset.range balls', (Ball.numbered k).hits steps' :=
        Finset.sum_le_sum_of_subset (Finset.range_mono fewer)

/-- **Balls bounce apart from one another.**  The ball with a number is made of the four values of a fresh stream that
are its own, and a run of it alone counts its hits.  As long as the counter has room, a run of any number of balls counts
the sum of these; so one ball more has at most one hit more for each step, and fewer balls or fewer steps never have
more hits. -/
theorem bounces_by_ball (balls steps : Nat) (room : (balls + 1) * steps < UInt64.size) :
    (∀ k, Ball.draw (Random.fresh.drop (4 * k)) = .ok (Ball.numbered k, Random.fresh.drop (4 * k + 4)) ∧
      ∃ alone, stepMany steps [Ball.numbered k] 0 = .ok ([Ball.next^[steps] (Ball.numbered k)], alone) ∧
        alone.toNat = (Ball.numbered k).hits steps) ∧
    ∃ all more, countBounces balls steps = .ok all ∧ countBounces (balls + 1) steps = .ok more ∧
      all.toNat = ∑ k ∈ Finset.range balls, (Ball.numbered k).hits steps ∧
      all.toNat ≤ more.toNat ∧ more.toNat - all.toNat ≤ steps ∧
      ∀ fewer ≤ balls, ∀ shorter ≤ steps, ∃ part, countBounces fewer shorter = .ok part ∧ part.toNat ≤ all.toNat := by
  have sum_le (n : Nat) : ∑ k ∈ Finset.range n, (Ball.numbered k).hits steps ≤ n * steps := by
    simpa using Finset.sum_le_card_nsmul (Finset.range n) _ steps fun k _ => (Ball.numbered k).hits_le steps
  have next := Finset.sum_range_succ (fun k => (Ball.numbered k).hits steps) balls
  have last := (Ball.numbered balls).hits_le steps
  obtain ⟨more, countedMore, more_eq⟩ := counted_of_lt ((sum_le (balls + 1)).trans_lt room)
  obtain ⟨all, countedAll, all_eq⟩ :=
    counted_of_lt ((sum_le balls).trans_lt ((Nat.mul_le_mul_right steps (Nat.le_succ balls)).trans_lt room))
  refine ⟨fun k => ⟨Ball.draw_numbered k, ?_⟩, all, more, (countBounces_eq_sum _ _).trans countedAll,
    (countBounces_eq_sum _ _).trans countedMore, all_eq, by omega, by omega, fun fewer le shorter le' => ?_⟩
  · have few : steps ≤ (balls + 1) * steps := Nat.le_mul_of_pos_left steps (Nat.succ_pos balls)
    obtain ⟨alone, countedAlone, alone_eq⟩ :=
      counted_of_lt (((Ball.numbered k).hits_le steps).trans_lt (few.trans_lt room))
    exact ⟨alone, by rw [stepMany_numbered, countedAlone]; rfl, alone_eq⟩
  · have le_all := sum_hits_mono le le'
    obtain ⟨part, countedPart, part_eq⟩ := counted_of_lt (le_all.trans_lt (all_eq ▸ all.toNat_lt_size))
    exact ⟨part, (countBounces_eq_sum _ _).trans countedPart, by rw [part_eq, all_eq]; exact le_all⟩

/-- Three balls hit walls 24 times in forty steps, 9, 13 and 2 times one by one, and a fourth one adds forty hits at most. -/
theorem bounces_by_ball_fourth : (3 + 1) * 40 < UInt64.size ∧
    ∃ all more, countBounces 3 40 = .ok all ∧ countBounces 4 40 = .ok more ∧ all.toNat = 9 + 13 + 2 ∧
      all.toNat ≤ more.toNat ∧ more.toNat - all.toNat ≤ 40 := by
  obtain ⟨-, all, more, run, longer, sum, le, most, -⟩ := bounces_by_ball 3 40 (by decide)
  have one : (Ball.numbered 0).hits 40 = 9 := by decide +kernel
  have two : (Ball.numbered 1).hits 40 = 13 := by decide +kernel
  have three : (Ball.numbered 2).hits 40 = 2 := by decide +kernel
  refine ⟨by decide, all, more, run, longer, ?_, le, most⟩
  rw [sum, Finset.sum_range_succ, Finset.sum_range_succ, Finset.sum_range_one, one, two, three]

end BenchSuite
