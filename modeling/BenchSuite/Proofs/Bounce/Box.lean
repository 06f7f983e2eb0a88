import Mathlib.Algebra.GroupWithZero.Nat
import Mathlib.Algebra.Order.BigOperators.Group.List
import Mathlib.Algebra.Order.Group.Nat
import Mathlib.Data.Nat.Count
import Mathlib.Logic.Function.Iterate
import BenchSuite.Kernel.Bounce
import BenchSuite.Proofs.Counter
/-!
# Balls stay in the box

A step moves a ball along each axis on its own (`step_eq`), and along one axis it comes to one of three ends: no wall
is hit, the near wall or the far wall (`slide_cases`).  From this a ball in the box, not faster than the balls that are
drawn, stays in the box with the speed that it has, and no sum, negation or absolute value on the way leaves its word
(`Within.next`).  A scene of such balls moves ball by ball, and all that can fail is the counter of the hits, when it
is full (`stepMany_eq`).
-/
namespace BenchSuite

namespace Ball

/-- The two directions in which a ball moves. -/
inductive Axis where
  | across
  | up

def position (b : Ball) : Axis → Int32
  | .across => b.x
  | .up => b.y

def speed (b : Ball) : Axis → Int32
  | .across => b.xVel
  | .up => b.yVel

/-- One coordinate and its speed after a step, and whether a wall was hit. -/
def slide (position speed : Int32) : Checked (Int32 × Int32 × Bool) := do
  reflect (← Checked.add32 position speed) speed

/-- The ball after a step; one whose step has no result stays as it is. -/
def next (b : Ball) : Ball :=
  match b.step with
  | .ok (b', _) => b'
  | .error _ => b

/-- Whether the next step of a ball hits a wall. -/
def bounces (b : Ball) : Bool :=
  match b.step with
  | .ok (_, hit) => hit
  | .error _ => false

/-- **Whether the next step of a ball turns it around** at a wall of an axis. -/
def turns (b : Ball) (axis : Axis) : Bool :=
  match slide (b.position axis) (b.speed axis) with
  | .ok (_, _, hit) => hit
  | .error _ => false

def maxSpeed : Nat := 150

/-- **A coordinate in the box**, with a speed of a size that balls are drawn with. -/
structure Contained (size : Nat) (position speed : Int32) : Prop where
  nonneg : 0 ≤ position.toInt
  le_limit : position.toInt ≤ limit.toInt
  speed_eq : speed.toInt.natAbs = size
  slow : size ≤ maxSpeed

def Within (sizes : Axis → Nat) (b : Ball) : Prop := ∀ axis, Contained (sizes axis) (b.position axis) (b.speed axis)

/-! ## One step -/

theorem int32_eq_ok {n : Int} (low : -2147483648 ≤ n) (high : n ≤ 2147483647) :
    ∃ w, Checked.int32 n = .ok w ∧ w.toInt = n :=
  ⟨_, if_pos ⟨low, high⟩, Int32.toInt_ofInt_of_le (by omega) (by omega)⟩

theorem limit_toInt : limit.toInt = 500 := rfl

/-- **What a step comes to along one axis.** -/
theorem slide_cases {size : Nat} {p v : Int32} (inside : Contained size p v) :
    (∃ p', slide p v = .ok (p', v, false) ∧ p'.toInt = p.toInt + v.toInt ∧
      0 ≤ p'.toInt ∧ p'.toInt ≤ limit.toInt) ∨
    (∃ v', slide p v = .ok (limit, v', true) ∧ v'.toInt = -size ∧ limit.toInt < p.toInt + v.toInt) ∨
    ∃ v', slide p v = .ok (0, v', true) ∧ v'.toInt = size ∧ p.toInt + v.toInt < 0 := by
  obtain ⟨low, high, same, slow⟩ := inside
  rw [limit_toInt] at high
  unfold maxSpeed at slow
  obtain ⟨q, moved, place⟩ := int32_eq_ok (n := p.toInt + v.toInt) (by omega) (by omega)
  obtain ⟨a, turned, size_eq⟩ := int32_eq_ok (n := v.toInt.natAbs) (by omega) (by omega)
  obtain ⟨a', back, neg_eq⟩ := int32_eq_ok (n := -a.toInt) (by omega) (by omega)
  have slid : slide p v = reflect q v := by rw [slide, Checked.add32, moved, Checked.ok_bind]
  rw [slid, reflect, Checked.abs32, turned, Checked.ok_bind, Checked.ok_bind, Checked.neg32, back, limit_toInt]
  simp only [Int32.lt_iff_toInt_lt, limit_toInt, place]
  by_cases far : 500 < p.toInt + v.toInt
  · exact .inr (.inl ⟨a', if_pos far, by omega, far⟩)
  · by_cases near : p.toInt + v.toInt < 0
    · exact .inr (.inr ⟨a, (if_neg far).trans (if_pos near), by omega, near⟩)
    · exact .inl ⟨q, (if_neg far).trans (if_neg near), place, by omega, by omega⟩

/-- **A step moves a ball along each axis on its own.** -/
theorem step_eq {b : Ball} {x xVel y yVel : Int32} {hitX hitY : Bool}
    (across : slide b.x b.xVel = .ok (x, xVel, hitX)) (up : slide b.y b.yVel = .ok (y, yVel, hitY)) :
    b.step = .ok (⟨x, y, xVel, yVel⟩, hitX || hitY) := by
  unfold slide at across up
  unfold step
  cases movedX : Checked.add32 b.x b.xVel with
  | error fault =>
    rw [movedX] at across
    cases across
  | ok qx =>
    cases movedY : Checked.add32 b.y b.yVel with
    | error fault =>
      rw [movedY] at up
      cases up
    | ok qy =>
      rw [movedX, Checked.ok_bind] at across
      rw [movedY, Checked.ok_bind] at up
      simp only [Checked.ok_bind, across, up]
      rfl

variable {sizes : Axis → Nat} {b : Ball}

theorem slide_contained {size : Nat} {p v : Int32} (inside : Contained size p v) :
    ∃ p' v' hit, slide p v = .ok (p', v', hit) ∧ Contained size p' v' := by
  have := inside.speed_eq
  have top : limit.toInt = 500 := limit_toInt
  rcases slide_cases inside with ⟨p', slid, -, low, high⟩ | ⟨v', slid, back, -⟩ | ⟨v', slid, back, -⟩
  · exact ⟨p', v, false, slid, low, high, inside.speed_eq, inside.slow⟩
  · exact ⟨limit, v', true, slid, by omega, by omega, by omega, inside.slow⟩
  · exact ⟨0, v', true, slid, by decide, by decide, by omega, inside.slow⟩

/-- **A step of a ball in the box** has a result, along each axis on its own. -/
theorem Within.step (inside : Within sizes b) :
    b.step = .ok (b.next, b.bounces) ∧ b.bounces = (b.turns .across || b.turns .up) ∧
      ∀ axis, slide (b.position axis) (b.speed axis) =
        .ok (b.next.position axis, b.next.speed axis, b.turns axis) := by
  obtain ⟨x, xVel, hitX, across, -⟩ := slide_contained (inside .across)
  obtain ⟨y, yVel, hitY, up, -⟩ := slide_contained (inside .up)
  have stepped := step_eq across up
  have turnsX : b.turns .across = hitX := by rw [turns, across]
  have turnsY : b.turns .up = hitY := by rw [turns, up]
  have next : b.next = ⟨x, y, xVel, yVel⟩ := by rw [next, stepped]
  have bounces : b.bounces = (hitX || hitY) := by rw [bounces, stepped]
  refine ⟨by rw [stepped, next, bounces], by rw [bounces, turnsX, turnsY], fun axis => ?_⟩
  cases axis with
  | across => rw [across, next, turnsX]; rfl
  | up => rw [up, next, turnsY]; rfl

/-- **A step leaves a ball in the box, as fast as it was.** -/
theorem Within.next (inside : Within sizes b) : Within sizes b.next := by
  intro axis
  obtain ⟨p, v, hit, slid, contained⟩ := slide_contained (inside axis)
  rw [inside.step.2.2 axis] at slid
  obtain ⟨rfl, rfl, -⟩ : b.next.position axis = p ∧ b.next.speed axis = v ∧ b.turns axis = hit := by simpa using slid
  exact contained

theorem Within.iterate (inside : Within sizes b) : ∀ t, Within sizes (Ball.next^[t] b)
  | 0 => inside
  | t + 1 => by
    rw [Function.iterate_succ_apply']
    exact (inside.iterate t).next

theorem Within.inBounds (inside : Within sizes b) : b.inBounds = true := by
  have bound (axis : Axis) : 0 ≤ b.position axis ∧ b.position axis ≤ limit :=
    ⟨Int32.le_iff_toInt_le.2 (inside axis).nonneg, Int32.le_iff_toInt_le.2 (inside axis).le_limit⟩
  exact decide_eq_true ⟨(bound .across).1, (bound .across).2, (bound .up).1, (bound .up).2⟩

/-! ## Balls that are drawn -/

theorem contained_draw (a c : UInt32) : ∃ p d v, Checked.int32 (a.toNat % 500) = .ok p ∧
    Checked.int32 (c.toNat % 300) = .ok d ∧ Checked.add32 d (-150) = .ok v ∧ Contained v.toInt.natAbs p v := by
  have offset : (-150 : Int32).toInt = -150 := rfl
  have top : limit.toInt = 500 := limit_toInt
  obtain ⟨p, place, place_eq⟩ := int32_eq_ok (n := (a.toNat % 500 : Int)) (by omega) (by omega)
  obtain ⟨d, drawn, drawn_eq⟩ := int32_eq_ok (n := (c.toNat % 300 : Int)) (by omega) (by omega)
  obtain ⟨v, moved, moved_eq⟩ := int32_eq_ok (n := d.toInt + (-150 : Int32).toInt) (by omega) (by omega)
  exact ⟨p, d, v, place, drawn, moved, by omega, by omega, rfl, by unfold maxSpeed; omega⟩

/-- **A ball is drawn in the box**, whatever was drawn before it. -/
theorem within_draw (r : Random) : ∃ b sizes, draw r = .ok (b, r.drop 4) ∧ Within sizes b := by
  obtain ⟨x, dx, xVel, placeX, drawnX, movedX, across⟩ := contained_draw r.next.1 r.next.2.next.2.next.1
  obtain ⟨y, dy, yVel, placeY, drawnY, movedY, up⟩ := contained_draw r.next.2.next.1 r.next.2.next.2.next.2.next.1
  refine ⟨⟨x, y, xVel, yVel⟩, fun axis => (speed ⟨x, y, xVel, yVel⟩ axis).toInt.natAbs, ?_, fun axis => ?_⟩
  · simp only [draw, placeX, placeY, drawnX, drawnY, movedX, movedY, Checked.ok_bind]
    rfl
  · cases axis with
    | across => exact across
    | up => exact up

end Ball

def Boxed (scene : List Ball) : Prop := ∀ b ∈ scene, ∃ sizes, b.Within sizes

theorem boxed_drawBalls : ∀ (n : Nat) (r : Random), ∃ scene, drawBalls n r = .ok scene ∧ scene.length = n ∧ Boxed scene
  | 0, _ => ⟨[], rfl, rfl, fun _ h => nomatch h⟩
  | n + 1, r => by
    obtain ⟨b, sizes, drawn, inside⟩ := Ball.within_draw r
    obtain ⟨scene, rest, length, boxed⟩ := boxed_drawBalls n (r.drop 4)
    refine ⟨b :: scene, ?_, congrArg (· + 1) length, List.forall_mem_cons.2 ⟨⟨sizes, inside⟩, boxed⟩⟩
    simp only [drawBalls, drawn, rest, Checked.ok_bind]
    rfl

/-! ## A scene -/

/-- How often the balls of a scene hit a wall in a number of steps. -/
def hitsIn (steps : Nat) (scene : List Ball) : Nat :=
  (scene.map fun b => Nat.count (fun t => (Ball.next^[t] b).bounces) steps).sum

theorem counted_bounces (b : Ball) (n : Nat) :
    (counted n >>= fun hits => if b.bounces then Checked.succ hits else .ok hits) =
      counted (n + b.bounces.toNat) := by
  cases b.bounces with
  | true => exact counted_succ n
  | false => exact bind_pure _

theorem stepAll_cons {b : Ball} {sizes : Ball.Axis → Nat} (inside : b.Within sizes) (scene : List Ball) :
    stepAll (b :: scene) = fun hits =>
      ((if b.bounces then Checked.succ hits else .ok hits) >>= stepAll scene) >>= fun moved =>
        return (b.next :: moved.1, moved.2) := by
  funext hits
  rw [stepAll, inside.step.1, bind_assoc]
  cases b.bounces <;> rfl

/-- **A step of a scene** moves each ball on its own, and fails only where the counter is full. -/
theorem stepAll_eq : ∀ {scene : List Ball}, Boxed scene → ∀ n,
    (counted n >>= stepAll scene) = (counted (n + scene.countP Ball.bounces)).map fun hits => (scene.map Ball.next, hits)
  | [], _, n => by
    rw [List.countP_nil, Nat.add_zero]
    cases counted n <;> rfl
  | b :: scene, boxed, n => by
    obtain ⟨⟨sizes, inside⟩, rest⟩ := List.forall_mem_cons.1 boxed
    have count : n + (b :: scene).countP Ball.bounces = n + b.bounces.toNat + scene.countP Ball.bounces := by
      rw [List.countP_cons]
      cases b.bounces <;> grind
    have more := stepAll_eq rest (n + b.bounces.toNat)
    rw [← counted_bounces, bind_assoc] at more
    calc counted n >>= stepAll (b :: scene)
        = (counted n >>= fun hits => (if b.bounces then Checked.succ hits else .ok hits) >>= stepAll scene) >>=
            fun moved => return (b.next :: moved.1, moved.2) := by
          rw [stepAll_cons inside, bind_assoc]
      _ = (counted (n + (b :: scene).countP Ball.bounces)).map fun hits => ((b :: scene).map Ball.next, hits) := by
          rw [more, count]
          cases counted (n + b.bounces.toNat + scene.countP Ball.bounces) <;> rfl

theorem hitsIn_succ (steps : Nat) (scene : List Ball) :
    hitsIn (steps + 1) scene = scene.countP Ball.bounces + hitsIn steps (scene.map Ball.next) := by
  induction scene with
  | nil => rfl
  | cons b scene ih =>
    have first : Nat.count (fun t => (Ball.next^[t] b).bounces) (steps + 1) =
        Nat.count (fun t => (Ball.next^[t] b.next).bounces) steps + b.bounces.toNat := by
      rw [Nat.count_succ']
      refine congrArg₂ (· + ·) rfl ?_
      show (if b.bounces = true then 1 else 0) = _
      cases b.bounces <;> rfl
    simp only [hitsIn, List.map_cons, List.sum_cons, List.countP_cons] at ih ⊢
    rw [ih, first]
    cases b.bounces <;> simp <;> omega

theorem boxed_next {scene : List Ball} (boxed : Boxed scene) : Boxed (scene.map Ball.next) := by
  intro b hb
  obtain ⟨b, old, rfl⟩ := List.mem_map.1 hb
  obtain ⟨sizes, inside⟩ := boxed b old
  exact ⟨sizes, inside.next⟩

/-- **Some steps of a scene** move each ball on its own, and fail only where the counter is full. -/
theorem stepMany_eq : ∀ (steps : Nat) {scene : List Ball}, Boxed scene → ∀ n,
    (counted n >>= stepMany steps scene) =
      (counted (n + hitsIn steps scene)).map fun hits => (scene.map Ball.next^[steps], hits)
  | 0, scene, _, n => by
    have none : hitsIn 0 scene = 0 := by simp [hitsIn]
    rw [none, Nat.add_zero, Function.iterate_zero, List.map_id]
    cases counted n <;> rfl
  | steps + 1, scene, boxed, n => by
    have first := stepAll_eq boxed n
    have more := stepMany_eq steps (boxed_next boxed) (n + scene.countP Ball.bounces)
    calc counted n >>= stepMany (steps + 1) scene
        = (counted n >>= stepAll scene) >>= fun moved => stepMany steps moved.1 moved.2 := by
          rw [bind_assoc]
          rfl
      _ = counted (n + scene.countP Ball.bounces) >>= stepMany steps (scene.map Ball.next) := by
          rw [first]
          cases counted (n + scene.countP Ball.bounces) <;> rfl
      _ = (counted (n + hitsIn (steps + 1) scene)).map fun hits => (scene.map Ball.next^[steps + 1], hits) := by
          rw [more, hitsIn_succ, Nat.add_assoc, List.map_map]
          rfl

theorem stepMany_start {scene : List Ball} (boxed : Boxed scene) (steps : Nat) :
    stepMany steps scene 0 = (counted (hitsIn steps scene)).map fun hits => (scene.map Ball.next^[steps], hits) := by
  have run := stepMany_eq steps boxed 0
  rwa [Nat.zero_add] at run

/-- **Bouncing balls** are all in the box in the end, and their hits are counted if the counter has room for them. -/
theorem countBounces_eq (balls steps : Nat) : ∃ scene, drawBalls balls .fresh = .ok scene ∧
    scene.length = balls ∧ Boxed scene ∧ countBounces balls steps = counted (hitsIn steps scene) := by
  obtain ⟨scene, drawn, length, boxed⟩ := boxed_drawBalls balls .fresh
  refine ⟨scene, drawn, length, boxed, ?_⟩
  have inBounds : (scene.map Ball.next^[steps]).all Ball.inBounds = true := by
    rw [List.all_map, List.all_eq_true]
    intro b hb
    obtain ⟨sizes, inside⟩ := boxed b hb
    exact (inside.iterate steps).inBounds
  rw [countBounces, drawn, Checked.ok_bind, stepMany_start boxed]
  cases counted (hitsIn steps scene) with
  | error fault => rfl
  | ok hits => exact if_pos inBounds

theorem hitsIn_le {steps bound : Nat} {scene : List Ball}
    (each : ∀ b ∈ scene, Nat.count (fun t => (Ball.next^[t] b).bounces) steps ≤ bound) :
    hitsIn steps scene ≤ scene.length * bound := by
  have sum := List.sum_le_card_nsmul (scene.map fun b => Nat.count (fun t => (Ball.next^[t] b).bounces) steps) bound
    (by simpa using each)
  rwa [List.length_map] at sum

/-- **Balls never leave the box and never overflow.**  However many balls are drawn, each of them comes from step to
step, as often as one likes, to a state in the box, with speeds along both axes of the sizes that it was drawn with,
which are 150 at most; so no sum, negation or absolute value leaves its word.  A scene is at every time what its balls
come to on their own, and the balls are found in the box in the end: all that can fail is the counter, when there are
`2 ^ 64` hits. -/
theorem balls_stay_in_box (balls steps : Nat) : ∃ scene, drawBalls balls .fresh = .ok scene ∧ scene.length = balls ∧
    (∀ b ∈ scene, ∀ t,
      let now := Ball.next^[t] b
      now.step = .ok (Ball.next^[t + 1] b, now.bounces) ∧
      (0 ≤ now.x ∧ now.x ≤ 500 ∧ 0 ≤ now.y ∧ now.y ≤ 500) ∧
      now.xVel.toInt.natAbs = b.xVel.toInt.natAbs ∧ now.yVel.toInt.natAbs = b.yVel.toInt.natAbs ∧
      b.xVel.toInt.natAbs ≤ 150 ∧ b.yVel.toInt.natAbs ≤ 150) ∧
    (∀ t, stepMany t scene 0 = (counted (hitsIn t scene)).map fun hits => (scene.map Ball.next^[t], hits)) ∧
    countBounces balls steps = counted (hitsIn steps scene) ∧ countBounces balls steps ≠ .error .assertion ∧
    (balls * steps < UInt64.size → ∃ hits, countBounces balls steps = .ok hits) := by
  obtain ⟨scene, drawn, length, boxed, count⟩ := countBounces_eq balls steps
  refine ⟨scene, drawn, length, fun b hb t => ?_, stepMany_start boxed, count, fun failed => ?_, fun room => ?_⟩
  · obtain ⟨sizes, inside⟩ := boxed b hb
    have now := inside.iterate t
    have bounds := of_decide_eq_true now.inBounds
    refine ⟨?_, bounds, (now .across).speed_eq.trans (inside .across).speed_eq.symm,
      (now .up).speed_eq.trans (inside .up).speed_eq.symm, ?_, ?_⟩
    · rw [Function.iterate_succ_apply']
      exact now.step.1
    · exact (inside .across).speed_eq.trans_le (inside .across).slow
    · exact (inside .up).speed_eq.trans_le (inside .up).slow
  · rw [count, counted] at failed
    split at failed <;> cases failed
  · have le : hitsIn steps scene ≤ scene.length * steps := hitsIn_le fun _ _ => Nat.count_le _
    rw [length] at le
    exact ⟨_, count.trans (if_pos (le.trans_lt room))⟩

def firstBalls : List Ball := [⟨396, 261, -36, 81⟩, ⟨40, 445, -104, 97⟩, ⟨224, 193, -16, -11⟩]

theorem drawBalls_three : drawBalls 3 .fresh = .ok firstBalls := by decide +kernel

/-- The second of three balls hits two walls at its first step, and is in the box, as fast, after a hundred. -/
theorem balls_stay_in_box_second : ∃ scene b, drawBalls 3 .fresh = .ok scene ∧ scene[1]? = some b ∧
    (b.turns .across = true ∧ b.turns .up = true) ∧
    let now := Ball.next^[100] b
    (0 ≤ now.x ∧ now.x ≤ 500 ∧ 0 ≤ now.y ∧ now.y ≤ 500) ∧
      now.xVel.toInt.natAbs = 104 ∧ now.yVel.toInt.natAbs = 97 := by
  obtain ⟨scene, drawn, -, inside, -⟩ := balls_stay_in_box 3 100
  obtain rfl : firstBalls = scene := Except.ok.inj (drawBalls_three.symm.trans drawn)
  obtain ⟨-, bounds, across, up, -⟩ := inside ⟨40, 445, -104, 97⟩ (by decide) 100
  exact ⟨_, _, drawn, rfl, by decide +kernel, bounds, across, up⟩

end BenchSuite
