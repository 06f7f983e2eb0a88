import BenchSuite.Log
import BenchSuite.Outcome
import BenchSuite.Sample
import BenchSuite.Kernel.Biquad
import BenchSuite.Kernel.Bounce
import BenchSuite.Kernel.Crc
import BenchSuite.Kernel.Mandelbrot
import BenchSuite.Kernel.NBody
import BenchSuite.Kernel.Permute
import BenchSuite.Kernel.Queens
import BenchSuite.Kernel.Sha256
import BenchSuite.Kernel.Sieve
import BenchSuite.Kernel.Storage
import BenchSuite.Kernel.Takeuchi
import BenchSuite.Kernel.Towers
/-!
# Kernels

A kernel is a small deterministic computation together with its sizes.  `Kernel.run` carries it out
from scratch, so nothing of one execution is left for the next.
-/
namespace BenchSuite

/-- What a workload computes. -/
inductive Kernel where
  | sieve (size : Nat)
  | nbody (steps : Nat)
  | permute (elements : Nat)
  | storage (depth : Nat)
  | queens (solves : Nat)
  | towers (disks : UInt32)
  | takeuchi (x y z : Nat)
  | bounce (balls steps : Nat)
  | mandelbrot (size : Nat)
  | biquad (input : List UInt8)
  | crc (poly : UInt32) (input : List UInt8)
  | sha256 (input : List UInt8)
deriving DecidableEq

/-- One execution of a kernel: what it told on the way, and what it came to. -/
structure Execution where
  records : List LogRecord
  result : Checked (Except KernelError Outcome)

/-- An execution that tells nothing. -/
def Execution.quiet (result : Checked (Except KernelError Outcome)) : Execution := ⟨[], result⟩

/-- An execution that always comes to an outcome. -/
def Execution.pure (outcome : Outcome) : Execution := .quiet (.ok (.ok outcome))

/-- The record of a finished row of an image. -/
def rowRecord (row : Nat) (sum : UInt32) : LogRecord :=
  ⟨.trace, "mandelbrot row", [("row", .number row), ("sum", .number sum.toNat)]⟩

/-- The records of all rows of an image. -/
def rowRecords (sums : List UInt32) : List LogRecord :=
  sums.zipIdx.map fun (sum, row) => rowRecord row sum

/-- The execution that draws an image, of which the checksum after each row is given. -/
def Execution.ofRows : Checked (List UInt32) → Execution
  | .ok sums => ⟨rowRecords sums, .ok (.ok (.count (Mandelbrot.checksum sums).toUInt64))⟩
  | .error fault => .quiet (.error fault)

/-- **Executes a kernel.** -/
def Kernel.run : Kernel → Execution
  | sieve size => .quiet do return .ok (.count (← Sieve.countUpTo size))
  | nbody steps => .pure (.scalar (NBody.simulate steps))
  | permute elements => .quiet do
    return .ok (.count (← (Permuter.fresh elements).permute elements).count)
  | storage depth => .quiet do
    let (_, builder) ← TreeBuilder.fresh.build depth
    return .ok (.count builder.count)
  | queens solves => .quiet do return .ok (.flag (← QueensBoard.empty.solveRepeatedly solves))
  | towers disks => .quiet do return (← Towers.transfer disks).map .count
  | takeuchi x y z => .quiet do
    match ← BenchSuite.takeuchi x y z with
    | none => return .error .emptyList
    | some length => return .ok (.count (UInt64.ofNat length))
  | bounce balls steps => .quiet do return .ok (.count (← countBounces balls steps))
  | mandelbrot size => .ofRows (Mandelbrot.sums (Mandelbrot.escapes size) size)
  | biquad input =>
    .pure (.signal (Biquad.lowPass.filter (input.map Biquad.amplify) .zero).1)
  | crc poly input => .pure (.count (Crc.checksum (Crc.table poly) input).toUInt64)
  | sha256 input => .quiet do return .ok (.digest (← Sha256.digest input))

/-- The value that a kernel must come to. -/
inductive Golden where
  /-- An outcome, compared as outcomes are. -/
  | outcome (expected : Outcome)
  /-- A scalar, the same in every bit. -/
  | word (expected : Float)
  /-- A signal, within the tolerance of the filter. -/
  | near (reference : List Float32)

/-- **Whether an outcome is the golden one.** -/
def Golden.accepts : Golden → Outcome → Bool
  | outcome expected, actual => actual == expected
  | word expected, .scalar x => x.toBits == expected.toBits
  | near reference, .signal samples => Biquad.near reference samples
  | _, _ => false

end BenchSuite
