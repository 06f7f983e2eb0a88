/-!
# Five bodies under gravity

The golden energy is one exact word, so the order of the pairs (each body with all later ones) and
the grouping of every expression below are part of the meaning: nothing here may be reassociated.
-/
namespace BenchSuite.NBody

/-- A point mass with its position and velocity. -/
structure Body where
  x : Float
  y : Float
  z : Float
  vx : Float
  vy : Float
  vz : Float
  mass : Float

def pi : Float := 3.141592653589793

def solarMass : Float := 4.0 * pi * pi

def daysPerYear : Float := 365.24

/-- The time step of the simulation. -/
def timeStep : Float := 0.01

/-- A body from velocities per day and a mass in solar masses. -/
def Body.scaled (x y z vx vy vz mass : Float) : Body :=
  ⟨x, y, z, vx * daysPerYear, vy * daysPerYear, vz * daysPerYear, mass * solarMass⟩

def sun : Body := .scaled 0.0 0.0 0.0 0.0 0.0 0.0 1.0

def jupiter : Body :=
  .scaled 4.84143144246472090e00 (-1.16032004402742839e00) (-1.03622044471123109e-01)
    1.66007664274403694e-03 7.69901118419740425e-03 (-6.90460016972063023e-05)
    9.54791938424326609e-04

def saturn : Body :=
  .scaled 8.34336671824457987e00 4.12479856412430479e00 (-4.03523417114321381e-01)
    (-2.76742510726862411e-03) 4.99852801234917238e-03 2.30417297573763929e-05
    2.85885980666130812e-04

def uranus : Body :=
  .scaled 1.28943695621391310e01 (-1.51111514016986312e01) (-2.23307578892655734e-01)
    2.96460137564761618e-03 2.37847173959480950e-03 (-2.96589568540237556e-05)
    4.36624404335156298e-05

def neptune : Body :=
  .scaled 1.53796971148509165e01 (-2.59193146099879641e01) 1.79258772950371181e-01
    2.68067772490389322e-03 1.62824170038242295e-03 (-9.51592254519715870e-05)
    5.15138902046611451e-05

/-- The sum of a quantity over all bodies, from the first to the last. -/
def total (f : Body → Float) (bodies : List Body) : Float :=
  bodies.foldl (fun sum b => sum + f b) 0.0

/-- **The sun and four planets**; the sun moves so that the total momentum is nothing. -/
def solarSystem : List Body :=
  let planets := [jupiter, saturn, uranus, neptune]
  let momentum (f : Body → Float) := total (fun b => f b * b.mass) (sun :: planets)
  { sun with
    vx := -(momentum Body.vx / solarMass)
    vy := -(momentum Body.vy / solarMass)
    vz := -(momentum Body.vz / solarMass) } :: planets

/-- **Two bodies pull at each other** for a time `dt`; only their velocities change. -/
def attract (dt : Float) (a b : Body) : Body × Body :=
  let dx := a.x - b.x
  let dy := a.y - b.y
  let dz := a.z - b.z
  let square := dx * dx + dy * dy + dz * dz
  let mag := dt / (square * square.sqrt)
  ({ a with
      vx := a.vx - dx * b.mass * mag
      vy := a.vy - dy * b.mass * mag
      vz := a.vz - dz * b.mass * mag },
   { b with
      vx := b.vx + dx * a.mass * mag
      vy := b.vy + dy * a.mass * mag
      vz := b.vz + dz * a.mass * mag })

/-- One body with each of the later ones in turn. -/
def attractAll (dt : Float) : Body → List Body → Body × List Body
  | a, [] => (a, [])
  | a, b :: rest =>
    let (a, b) := attract dt a b
    let (a, rest) := attractAll dt a rest
    (a, b :: rest)

theorem length_attractAll (dt : Float) (a : Body) (rest : List Body) :
    (attractAll dt a rest).2.length = rest.length := by
  induction rest generalizing a with
  | nil => rfl
  | cons b rest ih => simp [attractAll, ih]

/-- **Every pair of bodies once**, the first of a pair in ascending order, then the second. -/
def pull (dt : Float) : List Body → List Body
  | [] => []
  | a :: rest =>
    let pulled := attractAll dt a rest
    pulled.1 :: pull dt pulled.2
termination_by bodies => bodies.length
decreasing_by simp [length_attractAll]

/-- A body carried on by its velocity. -/
def Body.drift (dt : Float) (b : Body) : Body :=
  { b with x := b.x + dt * b.vx, y := b.y + dt * b.vy, z := b.z + dt * b.vz }

/-- **One time step**: all velocities first, then all positions. -/
def advance (dt : Float) (bodies : List Body) : List Body :=
  (pull dt bodies).map (Body.drift dt)

/-- `n` time steps. -/
def advanceBy (dt : Float) : Nat → List Body → List Body
  | 0, bodies => bodies
  | n + 1, bodies => advanceBy dt n (advance dt bodies)

def Body.kinetic (b : Body) : Float :=
  0.5 * b.mass * (b.vx * b.vx + b.vy * b.vy + b.vz * b.vz)

def Body.potential (a b : Body) : Float :=
  let dx := a.x - b.x
  let dy := a.y - b.y
  let dz := a.z - b.z
  (a.mass * b.mass) / (dx * dx + dy * dy + dz * dz).sqrt

/-- Adds to `e` the energy of the bodies: each one's motion, less its pull with all later ones. -/
def energyFrom : Float → List Body → Float
  | e, [] => e
  | e, a :: rest =>
    energyFrom (rest.foldl (fun e b => e - a.potential b) (e + a.kinetic)) rest

/-- **The energy of the whole system.** -/
def energy (bodies : List Body) : Float := energyFrom 0.0 bodies

/-- The energy of a new solar system after some steps. -/
def simulate (steps : Nat) : Float := energy (advanceBy timeStep steps solarSystem)

end BenchSuite.NBody
