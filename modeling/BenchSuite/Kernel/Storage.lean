import BenchSuite.Fault
import BenchSuite.Kernel.Random
/-!
# Trees of allocations

A builder makes perfect trees with four children at every interior node.  Leaves own a random number
of slots, drawn from one stream that goes on from tree to tree.
-/
namespace BenchSuite

/-- A tree whose leaves own empty slots. -/
inductive Tree where
  | leaf (slots : Nat)
  | node (a b c d : Tree)
deriving DecidableEq, Repr

/-- The sizes of the leaves, from left to right. -/
def Tree.leaves : Tree → List Nat
  | .leaf slots => [slots]
  | .node a b c d => a.leaves ++ b.leaves ++ c.leaves ++ d.leaves

/-- The source of leaf sizes and the number of nodes made so far. -/
structure TreeBuilder where
  random : Random
  count : UInt64
deriving DecidableEq, Repr

namespace TreeBuilder

def fresh : TreeBuilder := ⟨.fresh, 0⟩

/-- **Builds a tree with `depth + 1` levels**, counting its nodes. -/
def buildBelow : Nat → TreeBuilder → Checked (Tree × TreeBuilder)
  | 0, s => do
    let count ← Checked.succ s.count
    let (value, random) := s.random.next
    return (.leaf (value.toNat % 10 + 1), ⟨random, count⟩)
  | n + 1, s => do
    let count ← Checked.succ s.count
    let (a, s) ← buildBelow n { s with count }
    let (b, s) ← buildBelow n s
    let (c, s) ← buildBelow n s
    let (d, s) ← buildBelow n s
    return (.node a b c d, s)

/-- **Builds a tree with `depth` levels**; a tree always has one. -/
def build (depth : Nat) (s : TreeBuilder) : Checked (Tree × TreeBuilder) := buildBelow (depth - 1) s

end TreeBuilder
end BenchSuite
