import BenchSuite.Fault
/-!
# A recursion over linked lists

List cells live in an arena and link to each other by index.  `ListArena.tail` is the recursion of
Takeuchi on the lengths of three lists, carried out on the lists themselves; no cell is ever copied.
-/
namespace BenchSuite

/-- A list in an arena: the index of its first cell, or nothing. -/
abbrev Link := Option Nat

/-- A cell: its value and the rest of the list. -/
structure Element where
  value : UInt32
  next : Link
deriving DecidableEq, Repr

/-- The cells of all lists made so far. -/
structure ListArena where
  elements : Array Element
deriving DecidableEq, Repr

namespace ListArena

def empty : ListArena := ⟨#[]⟩

/-- **Makes the list `length`, `length - 1`, …, 1**, its last cell first. -/
def make (arena : ListArena) : Nat → Link × ListArena
  | 0 => (none, arena)
  | length + 1 =>
    let (next, arena) := make arena length
    (some arena.elements.size, ⟨arena.elements.push ⟨UInt32.ofNat (length + 1), next⟩⟩)

/-- The list without its first cell; the empty list stays as it is. -/
def next (arena : ListArena) : Link → Checked Link
  | none => return none
  | some i => do return (← Checked.get arena.elements i).next

/-- The values along at most `fuel` links.  More links than cells would run in a circle. -/
def valuesFrom (arena : ListArena) : Nat → Link → Checked (List UInt32)
  | _, none => return []
  | 0, some _ => .error .outOfRange
  | fuel + 1, some i => do
    let element ← Checked.get arena.elements i
    return element.value :: (← valuesFrom arena fuel element.next)

/-- **The values of a list**, first cell first. -/
def values (arena : ListArena) (link : Link) : Checked (List UInt32) :=
  valuesFrom arena arena.elements.size link

/-- The cells counted along at most `fuel` links. -/
def lengthWithin (arena : ListArena) : Nat → Link → Checked Nat
  | _, none => return 0
  | 0, some _ => .error .outOfRange
  | fuel + 1, some i => do
    let element ← Checked.get arena.elements i
    return 1 + (← lengthWithin arena fuel element.next)

/-- **The number of cells of a list**: none for the empty list, and one more than its rest has for any other. -/
def length (arena : ListArena) (link : Link) : Checked Nat :=
  lengthWithin arena arena.elements.size link

/-- Both lists shortened together until one runs out. -/
def isShorterWithin (arena : ListArena) : Nat → Link → Link → Checked Bool
  | _, _, none => return false
  | _, none, some _ => return true
  | 0, some _, some _ => .error .outOfRange
  | fuel + 1, some x, some y => do
    let x ← arena.next (some x)
    isShorterWithin arena fuel x (← arena.next (some y))

/-- **Whether the first list runs out before the second does.** -/
def isShorter (arena : ListArena) (x y : Link) : Checked Bool :=
  isShorterWithin arena (arena.elements.size + 1) x y

/-- The recursion to a given depth. -/
def tailWithin (arena : ListArena) : Nat → Link → Link → Link → Checked Link
  | 0, _, _, _ => .error .outOfRange
  | fuel + 1, x, y, z => do
    if ← arena.isShorter y x then
      let a ← tailWithin arena fuel (← arena.next x) y z
      let b ← tailWithin arena fuel (← arena.next y) z x
      let c ← tailWithin arena fuel (← arena.next z) x y
      tailWithin arena fuel a b c
    else return z

/-- **The recursion of Takeuchi**: the third list when the second is not shorter than the first, and
otherwise the recursion on its own answers for the three lists, each shortened by one cell in turn.
It never goes deeper than twice the number of cells. -/
def tail (arena : ListArena) (x y z : Link) : Checked Link :=
  tailWithin arena (2 * arena.elements.size + 1) x y z

end ListArena

/-- **The length of the answer** for three new lists; none when it is the empty list. -/
def takeuchi (x y z : Nat) : Checked (Option Nat) := do
  let (a, arena) := ListArena.empty.make x
  let (b, arena) := arena.make y
  let (c, arena) := arena.make z
  match ← arena.tail a b c with
  | none => return none
  | some link => return some (← arena.length (some link))

end BenchSuite
