import BenchSuite.Proofs.Json.Members
import BenchSuite.Proofs.Plan.Checks
import BenchSuite.Report.Json
/-!
# What a written report is read as

Both texts of a report are read as the report itself, but for its timestamp and its floating-point numbers,
each of which is read as what its own text means (`ofText?_savedText`).
-/
namespace BenchSuite

open Json (fields_record)

theorem mapM_eq_some {α : Type} {f : α → Option α} : ∀ {xs : List α}, (∀ x ∈ xs, f x = some x) →
    xs.mapM f = some xs
  | [], _ => rfl
  | x :: xs, h => by
    rw [List.mapM_cons, h x List.mem_cons_self, mapM_eq_some fun y hy => h y (List.mem_cons_of_mem _ hy)]
    rfl

theorem WorkloadTag.ofJson?_toJson (t : WorkloadTag) : ofJson? t.toJson = some t := by
  show (WorkloadTag.ofString t.text).toOption = some t
  rw [WorkloadTag.ofString_eq_ok.2 rfl]
  rfl

namespace Outcome

/-- **An outcome with each of its numbers read back** from the text of the number. -/
def readBack? : Outcome → Option Outcome
  | scalar x => (Json.float x).toFloat?.map scalar
  | signal samples => (samples.mapM fun x => (Json.float32 x).toFloat32?).map signal
  | o => some o

theorem ofValue?_valueJson (o : Outcome) : ofValue? o.kind o.valueJson = o.readBack? := by
  cases o with
  | count n => exact congrArg (Option.map count) (Json.toCount?_nat n)
  | scalar x => rfl
  | digest bytes =>
    have read : (bytes.toList.map fun b => Json.nat b.toNat).mapM Json.toByte? = some bytes.toList := by
      rw [List.mapM_map]
      exact mapM_eq_some fun b _ => Json.toByte?_nat b
    show ((bytes.toList.map fun b => Json.nat b.toNat).mapM Json.toByte?).bind digestOfList? = _
    rw [read, Option.bind_some, digestOfList?, dif_pos bytes.length_toList]
    rfl
  | flag b => rfl
  | signal samples =>
    show ((samples.map Json.float32).mapM Json.toFloat32?).bind (fun xs => some (signal xs)) = _
    rw [List.mapM_map]
    exact Option.map_eq_bind.symm

theorem ofJson?_toJson (o : Outcome) : ofJson? o.toJson = o.readBack? := by
  rw [← ofValue?_valueJson, ofJson?, toJson, fields_record (by simp)]
  rfl

theorem proper_toJson (o : Outcome) : o.toJson.Proper := by
  have value : o.valueJson.Proper := by
    cases o with
    | count n => exact Json.proper_nat _
    | scalar x => exact Json.proper_float x
    | digest bytes =>
      refine .array fun v hv => ?_
      obtain ⟨b, -, rfl⟩ := List.mem_map.1 hv
      exact Json.proper_nat _
    | flag b => exact .bool b
    | signal samples =>
      refine .array fun v hv => ?_
      obtain ⟨x, -, rfl⟩ := List.mem_map.1 hv
      exact Json.proper_float32 x
  refine Json.proper_record ?_
  simp only [List.forall_mem_cons]
  exact ⟨.text _, value, fun _ h => nomatch h⟩

end Outcome

namespace Timing

/-- A timing with each of its numbers read back. -/
def readBack? (t : Timing) : Option Timing := do
  return { t with
    totalMs := ← (Json.float t.totalMs).toFloat?
    averageMs := ← (Json.float t.averageMs).toFloat?
    outcome := ← t.outcome.readBack? }

theorem ofJson?_toJson (t : Timing) : ofJson? t.toJson = t.readBack? := by
  have tag := t.tag.ofJson?_toJson
  have warmup := Json.toUInt32?_nat t.warmup
  have cycles := Json.toUInt32?_nat t.cycles
  have outcome := t.outcome.ofJson?_toJson
  rw [ofJson?, toJson, fields_record (by simp)]
  simp [List.lookup_cons, tag, warmup, cycles, outcome, readBack?]

theorem proper_toJson (t : Timing) : t.toJson.Proper := by
  refine Json.proper_record ?_
  simp only [List.forall_mem_cons]
  exact ⟨.text _, Json.proper_nat _, Json.proper_nat _, Json.proper_float _, Json.proper_float _,
    t.outcome.proper_toJson, fun _ h => nomatch h⟩

end Timing

namespace SystemInfo

theorem ofJson?_toJson (s : SystemInfo) : ofJson? s.toJson = some s := by
  have kernel : optional? Json.toText? (some ((s.kernel.map Json.text).getD .null)) = some s.kernel := by
    cases s.kernel <;> rfl
  have logicalCpus := Json.toCount?_nat s.logicalCpus
  have cpuMhz := Json.toCount?_nat s.cpuMhz
  have memoryBytes := Json.toCount?_nat s.memoryBytes
  rw [ofJson?, toJson, fields_record (by simp)]
  simp [List.lookup_cons, kernel, logicalCpus, cpuMhz, memoryBytes, Json.text, Json.toText?]

theorem proper_toJson (s : SystemInfo) : s.toJson.Proper := by
  have kernel : ((s.kernel.map Json.text).getD .null).Proper := by
    cases s.kernel with
    | none => exact .null
    | some k => exact .text k
  refine Json.proper_record ?_
  simp only [List.forall_mem_cons]
  exact ⟨.text _, .text _, kernel, .text _, Json.proper_nat _, Json.proper_nat _, Json.proper_nat _,
    fun _ h => nomatch h⟩

end SystemInfo

namespace SuiteReport

/-- **A report with its timestamp and each of its numbers read back.** -/
def readBack? (r : SuiteReport) : Option SuiteReport := do
  return { r with
    timestamp := ← Timestamp.ofText? r.timestamp.text
    results := ← r.results.mapM Timing.readBack? }

theorem ofJson?_toJson (r : SuiteReport) : ofJson? r.toJson = r.readBack? := by
  have results : (r.results.map Timing.toJson).mapM Timing.ofJson? = r.results.mapM Timing.readBack? := by
    rw [List.mapM_map]
    exact congrArg (fun f => r.results.mapM f) (funext Timing.ofJson?_toJson)
  unfold ofJson? toJson
  -- without a host its member is left out, so the record has another row of keys
  cases host : r.systemInfo with
  | none =>
    rw [fields_record (by simp)]
    simp [List.lookup_cons, optional?, Json.items?, results, readBack?, host, Json.text, Json.toText?, Timestamp.ofJson?,
      Timestamp.toJson]
  | some s =>
    have info : optional? SystemInfo.ofJson? (some s.toJson) = some (some s) := congrArg (Option.map some) s.ofJson?_toJson
    rw [fields_record (by simp)]
    simp [List.lookup_cons, info, Json.items?, results, readBack?, host, Json.text, Json.toText?, Timestamp.ofJson?,
      Timestamp.toJson]

theorem proper_toJson (r : SuiteReport) : r.toJson.Proper := by
  have results : (Json.array (r.results.map Timing.toJson)).Proper := by
    refine .array fun v hv => ?_
    obtain ⟨t, -, rfl⟩ := List.mem_map.1 hv
    exact t.proper_toJson
  have info : ∀ m ∈ (r.systemInfo.map fun s => ("system_info", s.toJson)).toList, m.2.Proper := by
    cases r.systemInfo with
    | none => exact fun _ h => nomatch h
    | some s =>
      intro m hm
      obtain rfl := List.mem_singleton.1 hm
      exact s.proper_toJson
  refine Json.proper_record ?_
  simp only [List.forall_mem_append, List.forall_mem_cons]
  exact ⟨⟨⟨.text _, .text _, .text _, fun _ h => nomatch h⟩, info⟩, results, fun _ h => nomatch h⟩

/-- **What the saved text of a report is read as.** -/
theorem ofText?_savedText (r : SuiteReport) : ofText? r.savedText = r.readBack? := by
  rw [ofText?, savedText, Json.ofText?_prettyText r.proper_toJson]
  exact r.ofJson?_toJson

theorem ofText?_compactText (r : SuiteReport) : ofText? r.toJson.compactText = r.readBack? := by
  rw [ofText?, Json.ofText?_compactText r.proper_toJson]
  exact r.ofJson?_toJson

end SuiteReport

/-! ## The numbers of a report -/

def Outcome.doubles : Outcome → List Float
  | scalar x => [x]
  | _ => []

def Outcome.singles : Outcome → List Float32
  | signal samples => samples
  | _ => []

def Timing.doubles (t : Timing) : List Float := t.totalMs :: t.averageMs :: t.outcome.doubles

def SuiteReport.doubles (r : SuiteReport) : List Float := r.results.flatMap Timing.doubles

def SuiteReport.singles (r : SuiteReport) : List Float32 := r.results.flatMap (·.outcome.singles)

theorem Outcome.readBack?_eq_some {o : Outcome} (doubles : ∀ x ∈ o.doubles, (Json.float x).toFloat? = some x)
    (singles : ∀ x ∈ o.singles, (Json.float32 x).toFloat32? = some x) : o.readBack? = some o := by
  cases o with
  | scalar x => exact congrArg (Option.map scalar) (doubles x List.mem_cons_self)
  | signal samples =>
    have each : ∀ x ∈ samples, (Json.float32 x).toFloat32? = some x := singles
    exact congrArg (Option.map signal) (mapM_eq_some each)
  | _ => rfl

theorem Timing.readBack?_eq_some {t : Timing} (doubles : ∀ x ∈ t.doubles, (Json.float x).toFloat? = some x)
    (singles : ∀ x ∈ t.outcome.singles, (Json.float32 x).toFloat32? = some x) : t.readBack? = some t := by
  obtain ⟨total, average, rest⟩ : (Json.float t.totalMs).toFloat? = some t.totalMs ∧
      (Json.float t.averageMs).toFloat? = some t.averageMs ∧
      ∀ x ∈ t.outcome.doubles, (Json.float x).toFloat? = some x := by
    simpa only [Timing.doubles, List.forall_mem_cons] using doubles
  rw [readBack?, total, average, Outcome.readBack?_eq_some rest singles]
  rfl

/-- **A report whose numbers mean themselves** is read back as it is. -/
theorem SuiteReport.readBack?_eq_some {r : SuiteReport} (time : Timestamp.ofText? r.timestamp.text = some r.timestamp)
    (doubles : ∀ x ∈ r.doubles, (Json.float x).toFloat? = some x)
    (singles : ∀ x ∈ r.singles, (Json.float32 x).toFloat32? = some x) : r.readBack? = some r := by
  have results : r.results.mapM Timing.readBack? = some r.results := by
    have each : ∀ t ∈ r.results, t.readBack? = some t := fun t ht =>
      Timing.readBack?_eq_some (fun x hx => doubles x (List.mem_flatMap.2 ⟨t, ht, hx⟩))
        fun x hx => singles x (List.mem_flatMap.2 ⟨t, ht, hx⟩)
    exact mapM_eq_some each
  rw [readBack?, time, results]
  rfl

theorem isSome_mapM {α β : Type} {f : α → Option β} : ∀ {xs : List α},
    (xs.mapM f).isSome = true ↔ ∀ x ∈ xs, (f x).isSome = true
  | [] => ⟨fun _ _ h => (nomatch h), fun _ => rfl⟩
  | x :: xs => by
    rw [List.mapM_cons, List.forall_mem_cons, ← isSome_mapM]
    cases f x <;> cases xs.mapM f <;> simp

theorem Outcome.isSome_readBack? (o : Outcome) : o.readBack?.isSome = true ↔
    (∀ x ∈ o.doubles, (Json.float x).toFloat?.isSome = true) ∧
    ∀ x ∈ o.singles, (Json.float32 x).toFloat32?.isSome = true := by
  cases o with
  | scalar x => simp [readBack?, doubles, singles]
  | signal samples => simp [readBack?, doubles, singles, isSome_mapM]
  | _ => simp [readBack?, doubles, singles]

theorem Timing.isSome_readBack? (t : Timing) : t.readBack?.isSome = true ↔
    (∀ x ∈ t.doubles, (Json.float x).toFloat?.isSome = true) ∧
    ∀ x ∈ t.outcome.singles, (Json.float32 x).toFloat32?.isSome = true := by
  rw [doubles, List.forall_mem_cons, List.forall_mem_cons, and_assoc, and_assoc, ← Outcome.isSome_readBack?, readBack?]
  cases (Json.float t.totalMs).toFloat? <;> cases (Json.float t.averageMs).toFloat? <;>
    cases t.outcome.readBack? <;> simp

/-- **A report is read back exactly if its timestamp and all its numbers are.** -/
theorem SuiteReport.isSome_readBack? (r : SuiteReport) : r.readBack?.isSome = true ↔
    (Timestamp.ofText? r.timestamp.text).isSome = true ∧
    (∀ x ∈ r.doubles, (Json.float x).toFloat?.isSome = true) ∧
    ∀ x ∈ r.singles, (Json.float32 x).toFloat32?.isSome = true := by
  have results : (r.results.mapM Timing.readBack?).isSome = true ↔
      (∀ x ∈ r.doubles, (Json.float x).toFloat?.isSome = true) ∧
      ∀ x ∈ r.singles, (Json.float32 x).toFloat32?.isSome = true := by
    rw [isSome_mapM, doubles, singles, List.forall_mem_flatMap, List.forall_mem_flatMap, ← forall₂_and]
    exact forall₂_congr fun t _ => t.isSome_readBack?
  rw [← results, readBack?]
  cases Timestamp.ofText? r.timestamp.text <;> cases r.results.mapM Timing.readBack? <;> simp

end BenchSuite
