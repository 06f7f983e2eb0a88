import BenchSuite.Fault
/-!
# The sieve of Eratosthenes

`flags[k - 1]` says whether `k` is still a candidate.  Each candidate from 2 up is counted and then
strikes out its proper multiples, so that a number is counted when nothing before it struck it out.
-/
namespace BenchSuite.Sieve

/-- The proper multiples of a number up to a limit. -/
def multiples (i limit : Nat) : List Nat := List.range' (2 * i) (limit / i - 1) i

/-- A number that is no longer a candidate. -/
def strike (flags : Array Bool) (k : Nat) : Checked (Array Bool) :=
  Checked.replace flags (k - 1) false

/-- **One number of the scan**: a candidate is counted and strikes out its proper multiples. -/
def visit (state : Array Bool × UInt64) (i : Nat) : Checked (Array Bool × UInt64) := do
  let (flags, count) := state
  if ← Checked.get flags (i - 1) then
    let limit := flags.size
    return (← (multiples i limit).foldlM strike flags, ← Checked.succ count)
  else return (flags, count)

/-- **The flags after the sieve**, and how many candidates were counted. -/
def sieve (flags : Array Bool) : Checked (Array Bool × UInt64) :=
  (List.range' 2 (flags.size - 1)).foldlM visit (flags, 0)

/-- How many numbers up to `n` the sieve counts when all are candidates. -/
def countUpTo (n : Nat) : Checked UInt64 := do return (← sieve (Array.replicate n true)).2

end BenchSuite.Sieve
