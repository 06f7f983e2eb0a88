import BenchSuite.Error
import BenchSuite.Fault
/-!
# The towers of Hanoi

Three piles of disks, each a chain of links through one arena of disks.  A step may break a rule of
the puzzle and be refused; what was moved before the refusal stays moved.  A step with a pile that
does not exist, or with no disk to move, is a fault.
-/
namespace BenchSuite

/-- A disk, and the disk below it on its pile. -/
structure Disk where
  size : UInt32
  next : Option Nat
deriving DecidableEq, Repr

/-- How many piles there are. -/
abbrev pileCount : Nat := 3

/-- All disks ever made, the top disk of each pile, and the moves made so far. -/
structure Towers where
  disks : Array Disk
  piles : Vector (Option Nat) pileCount
  moves : UInt64
deriving DecidableEq

namespace Towers

/-- No disks. -/
def empty : Towers := ⟨#[], .replicate _ none, 0⟩

/-- What a step comes to: an answer or a refusal, and the towers after it either way. -/
abbrev Result (α : Type) := Except KernelError α × Towers

/-- The sizes along a chain of links.  A chain longer than the arena would run in a circle. -/
def sizesFrom (disks : Array Disk) : Nat → Option Nat → Checked (List UInt32)
  | _, none => return []
  | 0, some _ => .error .outOfRange
  | fuel + 1, some i => do
    let disk ← Checked.get disks i
    return disk.size :: (← sizesFrom disks fuel disk.next)

/-- **The sizes on a pile**, top first. -/
def pileSizes (t : Towers) (pile : Nat) : Checked (List UInt32) := do
  sizesFrom t.disks t.disks.size (← Checked.nth t.piles pile)

/-- The disk at an arena index laid on top of a pile, whatever lies there. -/
def lay (t : Towers) (disk pile : Nat) : Checked Towers := do
  let top ← Checked.nth t.piles pile
  let d ← Checked.get t.disks disk
  return { t with
    disks := t.disks.setIfInBounds disk { d with next := top }
    piles := t.piles.setIfInBounds pile (some disk) }

/-- **Puts a disk on a pile.**  It must be smaller than the top disk there. -/
def push (t : Towers) (disk pile : Nat) : Checked (Result Unit) := do
  match ← Checked.nth t.piles pile with
  | none => return (.ok (), ← t.lay disk pile)
  | some top =>
    let size := (← Checked.get t.disks disk).size
    let topSize := (← Checked.get t.disks top).size
    if topSize ≤ size then return (.error (.oversizedDisk size topSize pile), t)
    else return (.ok (), ← t.lay disk pile)

/-- **Takes the top disk off a pile.** -/
def pop (t : Towers) (pile : Nat) : Checked (Result Nat) := do
  match ← Checked.nth t.piles pile with
  | none => return (.error (.emptyPile pile), t)
  | some top =>
    let disk ← Checked.get t.disks top
    return (.ok top, { t with
      disks := t.disks.setIfInBounds top { disk with next := none }
      piles := t.piles.setIfInBounds pile disk.next })

/-- One step and then, unless it was refused, another. -/
def Result.andThen (first : Checked (Result α)) (next : α → Towers → Checked (Result β)) : Checked (Result β) := do
  match ← first with
  | (.ok a, t) => next a t
  | (.error e, t) => return (.error e, t)

/-- **Moves the top disk** of one pile to another.  A disk that may not be put down is gone. -/
def moveTop (source target : Nat) (t : Towers) : Checked (Result Unit) :=
  Result.andThen (t.pop source) fun disk t =>
    Result.andThen (t.push disk target) fun _ t => do
      return (.ok (), { t with moves := ← Checked.succ t.moves })

/-- Disks of the sizes `n - 1` down to 0 put on a pile. -/
def stack (pile : Nat) : Nat → Towers → Checked (Result Unit)
  | 0, t => return (.ok (), t)
  | n + 1, t =>
    let t := { t with disks := t.disks.push ⟨UInt32.ofNat n, none⟩ }
    Result.andThen (t.push (t.disks.size - 1) pile) fun _ t => stack pile n t

/-- **Stacks new disks** of the sizes `largest` down to 0 on a pile. -/
def build (pile : Nat) (largest : UInt32) (t : Towers) : Checked (Result Unit) :=
  stack pile (largest.toNat + 1) t

/-- The pile that is neither of two. -/
def otherPile (source target : Nat) : Checked Nat := do
  Checked.sub (← Checked.sub pileCount source) target

/-- **Moves the top `n` disks** of one pile to another by way of the third. -/
def move : Nat → Nat → Nat → Towers → Checked (Result Unit)
  | 0, _, _, _ => .error .overflow
  | 1, source, target, t => moveTop source target t
  | n + 2, source, target, t => do
    let other ← otherPile source target
    Result.andThen (move (n + 1) source other t) fun _ t =>
      Result.andThen (moveTop source target t) fun _ t => move (n + 1) other target t

/-- **The moves needed** to carry a tower from the first pile to the second. -/
def transfer (largest : UInt32) : Checked (Except KernelError UInt64) := do
  let (result, t) ← Result.andThen (build 0 largest empty) fun _ t => move largest.toNat 0 1 t
  return result.map fun _ => t.moves

end Towers
end BenchSuite
