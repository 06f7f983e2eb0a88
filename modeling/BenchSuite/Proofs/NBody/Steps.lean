import BenchSuite.Kernel.NBody
/-!
# One time step, body by body

A step goes through the pairs of bodies and changes both of a pair in place.  What a body does to another depends on
where it is and on its mass, and neither changes while velocities do.  So the changes that one body goes through can be
told from the bodies at the start of the step alone (`pull_eq`): it is pushed by each body before it and then pulled by
each one behind it, in the order of the list.  No law of arithmetic is used.
-/
namespace BenchSuite.NBody

/-- The squared distance of a pair. -/
def square (a b : Body) : Float :=
  (a.x - b.x) * (a.x - b.x) + (a.y - b.y) * (a.y - b.y) + (a.z - b.z) * (a.z - b.z)

/-- The time step over the cubed distance of a pair. -/
def magnitude (dt : Float) (a b : Body) : Float := dt / (square a b * (square a b).sqrt)

/-- **A velocity after a step**, along one axis: the bodies before add to it, those behind subtract from it. -/
def velocity (dt : Float) (axis : Body → Float) (before : List Body) (b : Body) (behind : List Body) (v : Float) :
    Float :=
  behind.foldl (fun v c => v - (axis b - axis c) * c.mass * magnitude dt b c)
    (before.foldl (fun v a => v + (axis a - axis b) * a.mass * magnitude dt a b) v)

namespace Body

/-- A body after its pair with an earlier one. -/
def pushedBy (dt : Float) (b a : Body) : Body :=
  { b with
    vx := b.vx + (a.x - b.x) * a.mass * magnitude dt a b
    vy := b.vy + (a.y - b.y) * a.mass * magnitude dt a b
    vz := b.vz + (a.z - b.z) * a.mass * magnitude dt a b }

/-- A body after its pair with a later one. -/
def pulledBy (dt : Float) (b c : Body) : Body :=
  { b with
    vx := b.vx - (b.x - c.x) * c.mass * magnitude dt b c
    vy := b.vy - (b.y - c.y) * c.mass * magnitude dt b c
    vz := b.vz - (b.z - c.z) * c.mass * magnitude dt b c }

theorem pushedBy_foldl (dt : Float) (b : Body) : ∀ (before : List Body) (a : Body),
    b.pushedBy dt (before.foldl (pushedBy dt) a) = b.pushedBy dt a
  | [], _ => rfl
  | c :: before, a => pushedBy_foldl dt b before (a.pushedBy dt c)

theorem pulledBy_foldl (dt : Float) (b : Body) : ∀ (before : List Body) (c : Body),
    b.pulledBy dt (before.foldl (pushedBy dt) c) = b.pulledBy dt c
  | [], _ => rfl
  | a :: before, c => pulledBy_foldl dt b before (c.pushedBy dt a)

theorem foldl_pushedBy (dt : Float) : ∀ (before : List Body) (b : Body),
    before.foldl (pushedBy dt) b =
      { b with
        vx := velocity dt x before b [] b.vx
        vy := velocity dt y before b [] b.vy
        vz := velocity dt z before b [] b.vz }
  | [], _ => rfl
  | a :: before, b => foldl_pushedBy dt before (b.pushedBy dt a)

theorem foldl_pulledBy (dt : Float) : ∀ (behind : List Body) (b : Body),
    behind.foldl (pulledBy dt) b =
      { b with
        vx := velocity dt x [] b behind b.vx
        vy := velocity dt y [] b behind b.vy
        vz := velocity dt z [] b behind b.vz }
  | [], _ => rfl
  | c :: behind, b => foldl_pulledBy dt behind (b.pulledBy dt c)

end Body

open Body (pushedBy pulledBy)

theorem attractAll_eq (dt : Float) : ∀ (rest : List Body) (a : Body),
    attractAll dt a rest = (rest.foldl (pulledBy dt) a, rest.map fun b => b.pushedBy dt a)
  | [], _ => rfl
  | b :: rest, a => by
    have later := attractAll_eq dt rest (a.pulledBy dt b)
    show ((attractAll dt (a.pulledBy dt b) rest).1, b.pushedBy dt a :: (attractAll dt (a.pulledBy dt b) rest).2) = _
    rw [later]
    rfl

/-- **All pairs**, when the bodies were already pushed by some before them. -/
theorem pull_eq (dt : Float) (rest : List Body) : ∀ before : List Body,
    pull dt (rest.map fun b => before.foldl (pushedBy dt) b) = rest.mapIdx fun k b =>
      (rest.drop (k + 1)).foldl (pulledBy dt) ((before ++ rest.take k).foldl (pushedBy dt) b) := by
  induction rest with
  | nil => intro before; simp [pull]
  | cons a rest ih =>
    intro before
    have next : (rest.map fun b => before.foldl (pushedBy dt) b).map
          (fun b => b.pushedBy dt (before.foldl (pushedBy dt) a)) =
        rest.map fun b => (before ++ [a]).foldl (pushedBy dt) b := by
      simp [Body.pushedBy_foldl]
    rw [List.map_cons, pull, attractAll_eq, next, ih, List.mapIdx_cons]
    simp [List.foldl_map, Body.pulledBy_foldl]

/-- **One step of every body.**  Its velocity comes from the old one by way of the other bodies in their order, all
distances and masses being those at the start of the step; its position goes on by the new velocity, and its mass
stays. -/
theorem advance_eq (dt : Float) (bodies : List Body) : advance dt bodies = bodies.mapIdx fun k b =>
    let vx := velocity dt Body.x (bodies.take k) b (bodies.drop (k + 1)) b.vx
    let vy := velocity dt Body.y (bodies.take k) b (bodies.drop (k + 1)) b.vy
    let vz := velocity dt Body.z (bodies.take k) b (bodies.drop (k + 1)) b.vz
    { x := b.x + dt * vx, y := b.y + dt * vy, z := b.z + dt * vz, vx, vy, vz, mass := b.mass } := by
  have pulled := pull_eq dt bodies []
  simp only [List.foldl_nil, List.map_id', List.nil_append] at pulled
  rw [advance, pulled]
  apply List.ext_getElem (by simp)
  intro k h _
  simp only [List.getElem_map, List.getElem_mapIdx, Body.foldl_pushedBy, Body.foldl_pulledBy]
  rfl

end BenchSuite.NBody
