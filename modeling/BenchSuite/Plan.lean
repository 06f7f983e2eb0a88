import BenchSuite.Error
/-!
# Tags, cycle counts and run plans

A workload is addressed by a short tag, and a run of it is planned by two counts.  Both rules are
part of the types: a `WorkloadTag` is well formed and `Cycles` is never zero, so the average time of
a run always exists.
-/
namespace BenchSuite

/-- The longest tag, in bytes. -/
def maxTagLength : Nat := 32

/-- The largest count a plan may ask for. -/
def maxRepetitions : UInt32 := 1000000

/-- Lower-case letters, digits, hyphens and underscores. -/
def isTagChar (c : Char) : Bool :=
  ('a' ≤ c && c ≤ 'z') || ('0' ≤ c && c ≤ '9') || c == '-' || c == '_'

/-- What can be wrong with a tag. -/
inductive TagFault where
  | empty
  | tooLong (bytes : Nat)
  | badCharacter
deriving DecidableEq, Repr

def TagFault.reason : TagFault → String
  | .empty => "Workload tag cannot be empty"
  | .tooLong bytes =>
    "Workload tag too long: " ++ toString bytes ++ " chars (max " ++ toString maxTagLength ++ ")"
  | .badCharacter =>
    "Workload tag must contain only lowercase alphanumerics, hyphens, and underscores"

/-- **The first fault of a text as a tag**: emptiness before length, length before characters. -/
def tagFault? (text : String) : Option TagFault :=
  if text = "" then some .empty
  else if maxTagLength < text.utf8ByteSize then some (.tooLong text.utf8ByteSize)
  else if text.toList.all isTagChar then none
  else some .badCharacter

/-- The identifier of a workload. -/
structure WorkloadTag where
  text : String
  wellFormed : tagFault? text = none
deriving DecidableEq

instance : Repr WorkloadTag := ⟨fun t _ => repr t.text⟩

/-- **A tag from a text**, or what is wrong with the text. -/
def WorkloadTag.ofString (text : String) : Except ValidationError WorkloadTag :=
  match h : tagFault? text with
  | none => .ok ⟨text, h⟩
  | some fault => .error (.invalidField "tag" text fault.reason)

/-- How often a workload is measured: at least once and at most `maxRepetitions` times. -/
structure Cycles where
  count : UInt32
  pos : 1 ≤ count
  le_max : count ≤ maxRepetitions
deriving DecidableEq

instance : Repr Cycles := ⟨fun c _ => repr c.count⟩

/-- A single repetition. -/
def Cycles.once : Cycles := ⟨1, by decide, by decide⟩

/-- **A cycle count from a number**, or what is wrong with the number. -/
def Cycles.ofCount (count : UInt32) : Except ValidationError Cycles :=
  if h : 1 ≤ count then
    if h' : count ≤ maxRepetitions then .ok ⟨count, h, h'⟩
    else .error (.invalidField "cycles" (toString count.toNat)
      ("Measured cycles must not exceed " ++ toString maxRepetitions.toNat))
  else .error (.invalidField "cycles" (toString count.toNat) "Measured cycles must be at least 1")

/-- How often a workload runs: `warmup` times untimed, then `cycles` times under the clock. -/
structure RunPlan where
  warmup : UInt32
  cycles : Cycles
deriving DecidableEq, Repr

/-- **A plan from two numbers**; the warm-up count is checked first. -/
def RunPlan.ofCounts (warmup cycles : UInt32) : Except ValidationError RunPlan :=
  if warmup ≤ maxRepetitions then do return ⟨warmup, ← Cycles.ofCount cycles⟩
  else .error (.invalidField "warmup" (toString warmup.toNat)
    ("Warm-up iterations must not exceed " ++ toString maxRepetitions.toNat))

/-- **Replaces the given counts** and checks the result as a whole. -/
def RunPlan.override (plan : RunPlan) (warmup cycles : Option UInt32) :
    Except ValidationError RunPlan :=
  RunPlan.ofCounts (warmup.getD plan.warmup) (cycles.getD plan.cycles.count)

end BenchSuite
