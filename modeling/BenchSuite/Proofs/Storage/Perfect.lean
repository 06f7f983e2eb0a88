import Mathlib.Algebra.Ring.GeomSum
import Mathlib.Tactic.Ring
import BenchSuite.Kernel.Storage
import BenchSuite.Proofs.Counter
import BenchSuite.Proofs.Random.Stream
/-!
# Perfect trees from one stream

A builder that stands at a position of its stream makes the tree that the values from there on make
(`Tree.grown`): it fails only where its counter is full (`buildBelow_eq`), and the next tree starts where this one
ended.  Such a tree has all its leaves at one level (`perfect_grown`), and they are sized by the values of the stream
one after the other (`leaves_grown`).
-/
namespace BenchSuite

namespace Tree

/-- **A tree with all its leaves at one level**, the root being at level 1, and four children everywhere above. -/
inductive Perfect : Nat → Tree → Prop
  | leaf (slots : Nat) : Perfect 1 (.leaf slots)
  | node {n : Nat} {a b c d : Tree} : Perfect n a → Perfect n b → Perfect n c → Perfect n d →
      Perfect (n + 1) (.node a b c d)

def slotsOf (value : UInt32) : Nat := value.toNat % 10 + 1

/-- The tree with some levels below its root that a stream makes from a position on. -/
def grown (r : Random) : Nat → Nat → Tree
  | 0, i => .leaf (slotsOf (r.value i))
  | n + 1, i => .node (grown r n i) (grown r n (i + 4 ^ n)) (grown r n (i + 4 ^ n + 4 ^ n))
      (grown r n (i + 4 ^ n + 4 ^ n + 4 ^ n))

theorem perfect_grown (r : Random) : ∀ n i, (grown r n i).Perfect (n + 1)
  | 0, _ => .leaf _
  | n + 1, _ => .node (perfect_grown r n _) (perfect_grown r n _) (perfect_grown r n _) (perfect_grown r n _)

theorem leaves_grown (r : Random) : ∀ n i,
    (grown r n i).leaves = (List.range' i (4 ^ n)).map fun j => slotsOf (r.value j)
  | 0, _ => rfl
  | n + 1, i => by
    have four : 4 ^ (n + 1) = 4 ^ n + 4 ^ n + 4 ^ n + 4 ^ n := by ring
    simp only [grown, leaves, leaves_grown r n, ← List.map_append, four]
    simp only [List.range'_append_1, Nat.add_assoc]

end Tree

def nodesWithin (levels : Nat) : Nat := (4 ^ levels - 1) / 3

theorem nodesWithin_succ (levels : Nat) : nodesWithin (levels + 1) = 1 + 4 * nodesWithin levels := by
  obtain ⟨q, whole⟩ : 3 ∣ 4 ^ levels - 1 := by simpa using Nat.sub_dvd_pow_sub_pow 4 1 levels
  have pos : 0 < 4 ^ levels := Nat.pow_pos (by decide)
  simp only [nodesWithin, Nat.pow_succ]
  omega

example : nodesWithin 7 = 5461 := rfl

namespace TreeBuilder

/-- **Building a tree** with some levels below its root fails only where the counter is full. -/
theorem buildBelow_eq (r : Random) : ∀ n i m,
    (counted m >>= fun count => buildBelow n ⟨r.drop i, count⟩) =
      (counted (m + nodesWithin (n + 1))).map fun count => (Tree.grown r n i, ⟨r.drop (i + 4 ^ n), count⟩)
  | 0, i, m => by
    have one : m + nodesWithin (0 + 1) = m + 1 := rfl
    rw [one, ← counted_succ]
    simp only [buildBelow, Random.next_drop]
    cases counted m with
    | error fault => rfl
    | ok count => cases Checked.succ count <;> rfl
  | n + 1, i, m => by
    -- a child is built from any position, whatever is built after it
    have child {α : Type} (i m : Nat) (next : Tree × TreeBuilder → Checked α) :
        (counted m >>= fun count => buildBelow n ⟨r.drop i, count⟩ >>= next) =
          counted (m + nodesWithin (n + 1)) >>= fun count => next (Tree.grown r n i, ⟨r.drop (i + 4 ^ n), count⟩) := by
      rw [← bind_assoc, buildBelow_eq r n i m]
      cases counted (m + nodesWithin (n + 1)) <;> rfl
    have root : (counted m >>= fun count => buildBelow (n + 1) ⟨r.drop i, count⟩) =
        counted (m + 1) >>= fun count => do
          let a ← buildBelow n ⟨r.drop i, count⟩
          let b ← buildBelow n a.2
          let c ← buildBelow n b.2
          let d ← buildBelow n c.2
          return (Tree.node a.1 b.1 c.1 d.1, d.2) := by
      rw [← counted_succ, bind_assoc]
      rfl
    have nodes : m + nodesWithin (n + 1 + 1) = m + 1 + nodesWithin (n + 1) + nodesWithin (n + 1) +
        nodesWithin (n + 1) + nodesWithin (n + 1) := by
      rw [nodesWithin_succ (n + 1)]
      omega
    have values : i + 4 ^ (n + 1) = i + 4 ^ n + 4 ^ n + 4 ^ n + 4 ^ n := by ring
    rw [root, nodes, values]
    simp only [child]
    cases counted (m + 1 + nodesWithin (n + 1) + nodesWithin (n + 1) + nodesWithin (n + 1) + nodesWithin (n + 1)) <;> rfl

/-- A tree of depth 0 has a level like one of depth 1. -/
def levelsOf (depth : Nat) : Nat := max depth 1

def valuesFor (depth : Nat) : Nat := 4 ^ (levelsOf depth - 1)

theorem build_eq (r : Random) (depth i m : Nat) : (counted m >>= fun count => build depth ⟨r.drop i, count⟩) =
    (counted (m + nodesWithin (levelsOf depth))).map fun count =>
      (Tree.grown r (levelsOf depth - 1) i, ⟨r.drop (i + valuesFor depth), count⟩) := by
  have below : depth - 1 = levelsOf depth - 1 := by unfold levelsOf; omega
  have levels : levelsOf depth = levelsOf depth - 1 + 1 := by unfold levelsOf; omega
  simp only [build, below, buildBelow_eq r, ← levels, valuesFor]

/-- A builder after trees of some depths, one after the other. -/
def after (depths : List Nat) : Checked TreeBuilder :=
  depths.foldlM (fun s depth => return (← s.build depth).2) fresh

theorem foldlM_build (r : Random) : ∀ (depths : List Nat) (i m : Nat),
    (counted m >>= fun count => depths.foldlM (fun s depth => return (← build depth s).2) ⟨r.drop i, count⟩) =
      (counted (m + (depths.map (nodesWithin ∘ levelsOf)).sum)).map fun count =>
        ⟨r.drop (i + (depths.map valuesFor).sum), count⟩
  | [], i, m => by
    rw [List.map_nil, List.map_nil, List.sum_nil, Nat.add_zero, Nat.add_zero]
    cases counted m <;> rfl
  | depth :: depths, i, m => by
    have first := build_eq r depth i m
    have more := foldlM_build r depths (i + valuesFor depth) (m + nodesWithin (levelsOf depth))
    simp only [List.map_cons, List.sum_cons, Function.comp_apply, ← Nat.add_assoc]
    rw [← more]
    simp only [List.foldlM_cons, bind_assoc, pure_bind]
    rw [← bind_assoc, first]
    cases counted (m + nodesWithin (levelsOf depth)) <;> rfl

theorem after_eq (depths : List Nat) : after depths =
    (counted (depths.map (nodesWithin ∘ levelsOf)).sum).map fun count =>
      ⟨Random.fresh.drop (depths.map valuesFor).sum, count⟩ := by
  have run := foldlM_build .fresh depths 0 0
  rwa [Nat.zero_add, Nat.zero_add] at run

/-- **Every tree is perfect, and all trees come from one stream.**  Whatever was built before, and whatever the depth, as
long as the counter has room for all nodes: the tree has all its leaves at the level of its depth and four children
everywhere above, its nodes are counted, and its leaves are sized, from left to right, by the values of the stream that
follow those of the trees before it, one value for each leaf. -/
theorem build_perfect (earlier : List Nat) (depth : Nat)
    (room : ((earlier ++ [depth]).map fun d => (4 ^ max d 1 - 1) / 3).sum < UInt64.size) :
    let levels := max depth 1
    let used := (earlier.map fun d => 4 ^ (max d 1 - 1)).sum
    ∃ s tree s', after earlier = .ok s ∧ s.build depth = .ok (tree, s') ∧ after (earlier ++ [depth]) = .ok s' ∧
      tree.Perfect levels ∧ s'.count.toNat = s.count.toNat + (4 ^ levels - 1) / 3 ∧
      s.random = Random.fresh.drop used ∧ s'.random = Random.fresh.drop (used + 4 ^ (levels - 1)) ∧
      tree.leaves = (List.range' used (4 ^ (levels - 1))).map (fun i => (Random.fresh.value i).toNat % 10 + 1) ∧
      ∀ slots ∈ tree.leaves, 1 ≤ slots ∧ slots ≤ 10 := by
  intro levels used
  have all : ((earlier ++ [depth]).map (nodesWithin ∘ levelsOf)).sum =
      (earlier.map (nodesWithin ∘ levelsOf)).sum + nodesWithin levels := by simp [levels, levelsOf]
  have drawn : ((earlier ++ [depth]).map valuesFor).sum = used + 4 ^ (levels - 1) := by
    rw [List.map_append, List.sum_append]
    rfl
  have fits : (earlier.map (nodesWithin ∘ levelsOf)).sum + nodesWithin levels < UInt64.size := all ▸ room
  obtain ⟨before, countedBefore, before_eq⟩ := counted_of_lt (Nat.lt_of_le_of_lt (Nat.le_add_right _ _) fits)
  obtain ⟨now, countedNow, now_eq⟩ := counted_of_lt fits
  have stands := after_eq earlier
  have stands' := after_eq (earlier ++ [depth])
  rw [countedBefore] at stands
  rw [all, countedNow, drawn] at stands'
  have built := build_eq .fresh depth used (earlier.map (nodesWithin ∘ levelsOf)).sum
  rw [countedBefore, Checked.ok_bind, show levelsOf depth = levels from rfl, countedNow] at built
  have sizes := Tree.leaves_grown .fresh (levels - 1) used
  have level : levels - 1 + 1 = levels := Nat.sub_add_cancel (Nat.le_max_right depth 1)
  refine ⟨_, Tree.grown .fresh (levels - 1) used, _, stands, built, stands', ?_, ?_, rfl, rfl, sizes, fun slots held => ?_⟩
  · exact level ▸ Tree.perfect_grown .fresh (levels - 1) used
  · exact now_eq.trans (before_eq ▸ rfl)
  · rw [sizes, List.mem_map] at held
    obtain ⟨i, -, rfl⟩ := held
    unfold Tree.slotsOf
    omega

/-- After trees of depths 2 and 0, of four leaves and of one, a tree of depth 3 takes the sixteen values from the sixth on
and comes to twenty-one nodes. -/
theorem build_perfect_third : (([2, 0] ++ [3]).map fun d => (4 ^ max d 1 - 1) / 3).sum < UInt64.size ∧
    ∃ s tree s', after [2, 0] = .ok s ∧ s.build 3 = .ok (tree, s') ∧ tree.Perfect 3 ∧
      s'.count.toNat = s.count.toNat + 21 ∧
      tree.leaves = [6, 7, 8, 5, 4, 5, 10, 5, 8, 5, 4, 9, 10, 5, 8, 7] := by
  obtain ⟨s, tree, s', before, built, -, perfect, count, -, -, leaves, -⟩ := build_perfect [2, 0] 3 (by decide)
  exact ⟨by decide, s, tree, s', before, built, perfect, count, leaves.trans (by decide +kernel)⟩

end TreeBuilder
end BenchSuite
