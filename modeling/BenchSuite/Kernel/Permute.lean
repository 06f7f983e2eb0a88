import BenchSuite.Fault
/-!
# Permutations by swapping

`walk` rearranges the first entries of an array in every way and leaves the array as it was.  What is
done on entering each call is a parameter: `Permuter.permute` counts the calls, and `arrangements`
keeps the array at the innermost ones.
-/
namespace BenchSuite

/-- Exchanges two entries, which must exist. -/
def swapEntries (values : Array Nat) (i j : Nat) : Checked (Array Nat) :=
  if h : i < values.size ∧ j < values.size then .ok (values.swap i j h.1 h.2)
  else .error .outOfRange

/-- **Visits the rearrangements of the first `n` entries.**  For each position from the last down, the
entry there takes the last place while the others are rearranged. -/
def walk (enter : Nat → Array Nat → σ → Checked σ) :
    Nat → Array Nat × σ → Checked (Array Nat × σ)
  | 0, (values, s) => do return (values, ← enter 0 values s)
  | n + 1, (values, s) => do
    let s ← enter (n + 1) values s
    let state ← walk enter n (values, s)
    (List.range (n + 1)).reverse.foldlM (fun (values, s) i => do
      let values ← swapEntries values n i
      let (values, s) ← walk enter n (values, s)
      return (← swapEntries values n i, s)) state

/-- An array to be permuted and the number of calls made so far. -/
structure Permuter where
  values : Array Nat
  count : UInt64
deriving DecidableEq, Repr

namespace Permuter

/-- The numbers below `length`, in order, and no calls. -/
def fresh (length : Nat) : Permuter := ⟨Array.range length, 0⟩

/-- **Permutes the first `n` entries**, counting every call. -/
def permute (n : Nat) (p : Permuter) : Checked Permuter := do
  let (values, count) ← walk (fun _ _ count => Checked.succ count) n (p.values, p.count)
  return ⟨values, count⟩

end Permuter

/-- **The arrays seen by the innermost calls**, in order. -/
def arrangements (n : Nat) (values : Array Nat) : Checked (List (Array Nat)) := do
  let (_, seen) ← walk (fun k values seen => .ok (if k = 0 then seen ++ [values] else seen)) n
    (values, [])
  return seen

end BenchSuite
