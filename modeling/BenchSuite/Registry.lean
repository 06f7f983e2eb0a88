import BenchSuite.Text.Digits
import BenchSuite.Workload
/-!
# The registry

The workloads that a command can run, in suite order.  They are looked up by tag or by position, their
plans are replaced by those of a run-plan file, and the list is cut down to chosen tags.
-/
namespace BenchSuite

/-- What a run-plan file says about one workload.  A count that is absent keeps its built-in value. -/
structure PlanOverride where
  tag : WorkloadTag
  warmup : Option UInt32
  cycles : Option Cycles
deriving DecidableEq, Repr

/-- Workloads in suite order. -/
structure Registry where
  workloads : List Workload

namespace Registry

/-- All built-in workloads with their own plans. -/
def builtin : Registry := ⟨Workload.suite⟩

def size (r : Registry) : Nat := r.workloads.length

def tags (r : Registry) : List WorkloadTag := r.workloads.map Workload.tag

/-- Whether a tag is held. -/
def contains (r : Registry) (tag : WorkloadTag) : Bool := r.workloads.any (·.tag == tag)

/-- **The workload with a tag.** -/
def get (r : Registry) (tag : String) : Except BenchError Workload :=
  match r.workloads.find? (·.tag.text == tag) with
  | some w => .ok w
  | none => .error (.unknownWorkload tag)

/-- **The workload at a position**, counted from zero. -/
def byIndex (r : Registry) (index : Nat) : Except BenchError Workload :=
  match r.workloads[index]? with
  | some w => .ok w
  | none => .error (.unknownWorkload (toString index))

/-- **The position that a selector names**: digits, perhaps after a plus sign, below `2 ^ 64`. -/
def selectorIndex? (selector : String) : Option Nat :=
  (Text.number? (match selector.toList with
    | '+' :: rest => rest
    | chars => chars)).filter (· < UInt64.size)

/-- **The workload that a selector names**: a position where it reads as one, and a tag otherwise. -/
def select (r : Registry) (selector : String) : Except BenchError Workload :=
  match selectorIndex? selector with
  | some index => r.byIndex index
  | none => r.get selector

/-- The first workload with a tag replaced by another. -/
def replaceFirst (tag : WorkloadTag) (w : Workload) : List Workload → List Workload
  | [] => []
  | v :: rest => if v.tag = tag then w :: rest else v :: replaceFirst tag w rest

/-- One override: the workload it names gets a new plan, or the registry stays as it is. -/
def applyOverride (r : Registry) (o : PlanOverride) : Except BenchError Unit × Registry :=
  match r.workloads.find? (·.tag == o.tag) with
  | none => (.error (.unknownWorkload o.tag.text), r)
  | some w =>
    match w.plan.override o.warmup (o.cycles.map Cycles.count) with
    | .error e => (.error (.invalidPlan e), r)
    | .ok plan => (.ok (), ⟨replaceFirst o.tag (w.withPlan plan) r.workloads⟩)

/-- **Applies overrides** one after the other, up to the first that fails. -/
def apply : List PlanOverride → Registry → Except BenchError Unit × Registry
  | [], r => (.ok (), r)
  | o :: rest, r =>
    match r.applyOverride o with
    | (.ok (), r) => apply rest r
    | (.error e, r) => (.error e, r)

/-- **Keeps only the workloads with the given tags**, in suite order.  A tag that is not held leaves
the registry as it is. -/
def retain (r : Registry) (tags : List WorkloadTag) : Except BenchError Unit × Registry :=
  match tags.find? fun tag => !r.contains tag with
  | some tag => (.error (.unknownWorkload tag.text), r)
  | none => (.ok (), ⟨r.workloads.filter fun w => tags.contains w.tag⟩)

end Registry
end BenchSuite
