import BenchSuite.Fault
import BenchSuite.Kernel.Random
/-!
# Bouncing balls

Balls move in a square box and turn around at its walls.  A ball that leaves the box is put back onto
the wall it passed, and its speed along that axis is pointed inwards.  All arithmetic is on signed
words; a result that does not fit is a fault.
-/
namespace BenchSuite

/-- A ball: where it is and how far it goes in one step. -/
structure Ball where
  x : Int32
  y : Int32
  xVel : Int32
  yVel : Int32
deriving DecidableEq, Repr

namespace Ball

/-- Edge length of the box. -/
def limit : Int32 := 500

/-- **A new ball** from four draws, in this order: position, then speed, first across and then up. -/
def draw (r : Random) : Checked (Ball × Random) := do
  let (a, r) := r.next
  let (b, r) := r.next
  let (c, r) := r.next
  let (d, r) := r.next
  let x ← Checked.int32 (a.toNat % 500)
  let y ← Checked.int32 (b.toNat % 500)
  let xVel ← Checked.add32 (← Checked.int32 (c.toNat % 300)) (-150)
  let yVel ← Checked.add32 (← Checked.int32 (d.toNat % 300)) (-150)
  return (⟨x, y, xVel, yVel⟩, r)

/-- One coordinate and its speed after the walls, and whether a wall was hit. -/
def reflect (position speed : Int32) : Checked (Int32 × Int32 × Bool) := do
  if limit < position then return (limit, ← Checked.neg32 (← Checked.abs32 speed), true)
  else if position < 0 then return (0, ← Checked.abs32 speed, true)
  else return (position, speed, false)

/-- **One step of a ball**, and whether it hit any wall. -/
def step (b : Ball) : Checked (Ball × Bool) := do
  let x ← Checked.add32 b.x b.xVel
  let y ← Checked.add32 b.y b.yVel
  let (x, xVel, hitX) ← reflect x b.xVel
  let (y, yVel, hitY) ← reflect y b.yVel
  return (⟨x, y, xVel, yVel⟩, hitX || hitY)

/-- Whether a ball is in the box. -/
def inBounds (b : Ball) : Bool :=
  decide (0 ≤ b.x ∧ b.x ≤ limit ∧ 0 ≤ b.y ∧ b.y ≤ limit)

end Ball

/-- The first balls that a generator gives. -/
def drawBalls : Nat → Random → Checked (List Ball)
  | 0, _ => return []
  | n + 1, r => do
    let (ball, r) ← Ball.draw r
    return ball :: (← drawBalls n r)

/-- One step of every ball, counting the hits. -/
def stepAll : List Ball → UInt64 → Checked (List Ball × UInt64)
  | [], hits => return ([], hits)
  | ball :: rest, hits => do
    let (ball, hit) ← ball.step
    let (rest, hits) ← stepAll rest (← if hit then Checked.succ hits else .ok hits)
    return (ball :: rest, hits)

/-- Some steps of every ball, counting the hits. -/
def stepMany : Nat → List Ball → UInt64 → Checked (List Ball × UInt64)
  | 0, balls, hits => return (balls, hits)
  | n + 1, balls, hits => do
    let (balls, hits) ← stepAll balls hits
    stepMany n balls hits

/-- **How often balls hit a wall**: at each step a ball counts once, even in a corner.  All balls must
be in the box at the end. -/
def countBounces (balls steps : Nat) : Checked UInt64 := do
  let (balls, hits) ← stepMany steps (← drawBalls balls .fresh) 0
  if balls.all Ball.inBounds then return hits else .error .assertion

end BenchSuite
