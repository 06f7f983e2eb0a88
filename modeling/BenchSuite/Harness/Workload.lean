import BenchSuite.Harness
import BenchSuite.Workload
/-!
# Running workloads

The job of a workload: each call executes its kernel from scratch, and the verdict compares the outcome
with the golden value.  What a kernel tells while it is executed goes to the log before its result is
looked at.
-/
namespace BenchSuite

/-- **The job of a workload.**  A fault of the kernel ends everything by way of `abort`. -/
@[specialize] def Workload.job [Monad m] (w : Workload) (log : LogRecord → m Unit)
    (abort : Fault → m (Except KernelError Outcome)) : Job m where
  tag := w.tag
  plan := w.plan
  call := do
    let kernel ← pure w.kernel
    let execution := kernel.run
    execution.records.forM log
    match execution.result with
    | .ok result => return result
    | .error fault => abort fault
  accepts outcome := return w.accepts outcome

end BenchSuite
