import BenchSuite.Kernel
import BenchSuite.Plan
/-!
# Workloads

A workload is a kernel under a tag, with the golden value it must come to and the plan by which it is
run.  `Workload.suite` holds the built-in ones; their order is the order of every run.
-/
namespace BenchSuite

/-- One benchmark. -/
structure Workload where
  tag : WorkloadTag
  description : String
  plan : RunPlan
  kernel : Kernel
  golden : Golden

namespace Workload

/-- **The workload with another plan.** -/
def withPlan (w : Workload) (plan : RunPlan) : Workload := { w with plan }

/-- Whether an outcome is what the workload must come to. -/
def accepts (w : Workload) (outcome : Outcome) : Bool := w.golden.accepts outcome

/-- The digest of the sample payload. -/
def goldenDigest : Vector UInt8 32 := #v[
  0x7e, 0x2c, 0xbd, 0x23, 0x8a, 0x78, 0x63, 0xe9, 0xe5, 0x7d, 0x72, 0x53, 0x5c, 0xb7, 0x10, 0x1c,
  0xce, 0x74, 0x02, 0x69, 0x0e, 0xca, 0xd6, 0xf9, 0x0e, 0xfd, 0x33, 0x11, 0x61, 0xb0, 0xca, 0xd7]

def sieve : Workload where
  tag := ⟨"sieve", by decide⟩
  description := "Count primes up to 5000"
  plan := ⟨100, ⟨100, by decide, by decide⟩⟩
  kernel := .sieve 5000
  golden := .outcome (.count 669)

def nbody : Workload where
  tag := ⟨"nbody", by decide⟩
  description := "250k leapfrog steps of a five-body solar system"
  plan := ⟨0, ⟨2, by decide, by decide⟩⟩
  kernel := .nbody 250000
  golden := .word (-0.1690859889909308)

def permute : Workload where
  tag := ⟨"permute", by decide⟩
  description := "Recursive permutation of six elements"
  plan := ⟨100, ⟨100, by decide, by decide⟩⟩
  kernel := .permute 6
  golden := .outcome (.count 8660)

def storage : Workload where
  tag := ⟨"storage", by decide⟩
  description := "Build a random depth-7 tree of heap allocations"
  plan := ⟨1, ⟨4, by decide, by decide⟩⟩
  kernel := .storage 7
  golden := .outcome (.count 5461)

def queens : Workload where
  tag := ⟨"queens", by decide⟩
  description := "Ten backtracking solves of the eight queens problem"
  plan := ⟨1, ⟨3, by decide, by decide⟩⟩
  kernel := .queens 10
  golden := .outcome (.flag true)

def towers : Workload where
  tag := ⟨"towers", by decide⟩
  description := "Move a 13-disk tower between linked piles"
  plan := ⟨10, ⟨10, by decide, by decide⟩⟩
  kernel := .towers 13
  golden := .outcome (.count 8191)

def list : Workload where
  tag := ⟨"list", by decide⟩
  description := "Recursive tail over linked lists of length 15, 10 and 6"
  plan := ⟨1, ⟨3, by decide, by decide⟩⟩
  kernel := .takeuchi 15 10 6
  golden := .outcome (.count 10)

def bounce : Workload where
  tag := ⟨"bounce", by decide⟩
  description := "100 balls bouncing in a box for 50 steps"
  plan := ⟨1, ⟨4, by decide, by decide⟩⟩
  kernel := .bounce 100 50
  golden := .outcome (.count 1331)

def mandelbrot : Workload where
  tag := ⟨"mandelbrot", by decide⟩
  description := "Escape-time digest of a 500x500 Mandelbrot image"
  plan := ⟨0, .once⟩
  kernel := .mandelbrot 500
  golden := .outcome (.count 191)

def biquad : Workload where
  tag := ⟨"biquad", by decide⟩
  description := "Biquad low-pass filter over the 1 KiB sample payload"
  plan := ⟨1, ⟨3, by decide, by decide⟩⟩
  kernel := .biquad Sample.payload
  golden := .near Sample.reference

def crc : Workload where
  tag := ⟨"crc", by decide⟩
  description := "CRC-32 of the 1 KiB sample payload"
  plan := ⟨1, ⟨3, by decide, by decide⟩⟩
  kernel := .crc Crc.polynomial Sample.payload
  golden := .outcome (.count 1837082096)

def sha256 : Workload where
  tag := ⟨"sha256", by decide⟩
  description := "SHA-256 digest of the 1 KiB sample payload"
  plan := ⟨1, ⟨3, by decide, by decide⟩⟩
  kernel := .sha256 Sample.payload
  golden := .outcome (.digest goldenDigest)

/-- **The built-in workloads**, in the order of the suite. -/
def suite : List Workload :=
  [sieve, nbody, permute, storage, queens, towers, list, bounce, mandelbrot, biquad, crc, sha256]

end Workload
end BenchSuite
