/-!
# What can go wrong

Every refusal names its cause.  The wording is kept in one `message` function per kind of error, so
that the rest of the library never builds a text.  No error is recoverable: each ends the command
that met it.
-/
namespace BenchSuite

/-- A plan was refused before anything ran. -/
inductive ValidationError where
  /-- A field holds a value outside its rules. -/
  | invalidField (field value reason : String)
  /-- Two entries of one run-plan file name the same workload. -/
  | duplicateWorkload (tag : String)
deriving DecidableEq, Repr

/-- A kernel broke a rule of its own puzzle. -/
inductive KernelError where
  /-- A disk would come to lie on one that is not larger. -/
  | oversizedDisk (disk top : UInt32) (pile : Nat)
  /-- A disk was to be taken from a pile that has none. -/
  | emptyPile (pile : Nat)
  /-- The list recursion ended in the empty list. -/
  | emptyList
deriving DecidableEq, Repr

/-- A kernel answered, but not with the golden value. -/
structure Mismatch where
  /-- The workload that ran. -/
  tag : String
  /-- What it answered, as shown to people. -/
  actual : String
deriving DecidableEq, Repr

/-- **Everything that ends a command early.** -/
inductive BenchError where
  | invalidPlan (cause : ValidationError)
  | configNotFound (path : String)
  | configParse (problem : String)
  | unknownWorkload (selector : String)
  | kernel (cause : KernelError)
  | verification (cause : Mismatch)
  /-- The system refused an operation; both texts are shown. -/
  | io (context cause : String)
deriving DecidableEq, Repr

def ValidationError.message : ValidationError → String
  | .invalidField field value reason =>
    "Invalid field value: " ++ field ++ " = " ++ value ++ " - " ++ reason
  | .duplicateWorkload tag => "Duplicate workload entry: " ++ tag

def KernelError.message : KernelError → String
  | .oversizedDisk disk top pile =>
    "Cannot push disk " ++ toString disk.toNat ++ " onto smaller disk " ++ toString top.toNat
      ++ " on pile " ++ toString pile
  | .emptyPile pile => "Attempted to remove a disk from empty pile " ++ toString pile
  | .emptyList => "List benchmark produced an empty list"

def Mismatch.message (m : Mismatch) : String :=
  "workload '" ++ m.tag ++ "' produced unexpected outcome " ++ m.actual

def BenchError.message : BenchError → String
  | .invalidPlan cause => "Hard validation error: " ++ cause.message
  | .configNotFound path => "Configuration file not found: " ++ path
  | .configParse problem => "Configuration parse error: " ++ problem
  | .unknownWorkload selector => "Unknown workload: " ++ selector
  | .kernel cause => "Kernel invariant violated: " ++ cause.message
  | .verification cause => "Verification failed: " ++ cause.message
  | .io context cause => "IO error: " ++ context ++ " - " ++ cause

/-- **The error inside an error**, for those that wrap another. -/
def BenchError.cause? : BenchError → Option String
  | .invalidPlan cause => some cause.message
  | .kernel cause => some cause.message
  | .verification cause => some cause.message
  | .io _ cause => some cause
  | .configNotFound _ | .configParse _ | .unknownWorkload _ => none

end BenchSuite
