import BenchSuite.Proofs.Json.Members
import BenchSuite.Proofs.Plan.Checks
import BenchSuite.Report.Json
/-!
# Plans that are decoded

A tag and a cycle count in a text pass the checks of their constructors.  The warm-up count of a plan does not,
so a text may hold a plan that `RunPlan.ofCounts` refuses (`decode_checked_but_warmup`).
-/
namespace BenchSuite

/-- What a text is decoded as. -/
def Json.decode? {α : Type} (ofJson? : Json → Option α) (text : String) : Option α := do ofJson? (← ofText? text)

theorem Json.decode?_of_read {α : Type} {ofJson? : Json → Option α} {text : String} {j : Json}
    (read : ofText? text = some j) : decode? ofJson? text = ofJson? j := by
  rw [decode?, read]
  rfl

theorem except_toOption_eq_some {ε α : Type} {x : Except ε α} {a : α} : x.toOption = some a ↔ x = .ok a := by
  cases x <;> simp [Except.toOption]

theorem WorkloadTag.ofJson?_text {s : String} {t : WorkloadTag} : ofJson? (.text s) = some t ↔ ofString s = .ok t :=
  except_toOption_eq_some

theorem Cycles.ofJson?_nat {n : UInt32} {c : Cycles} : ofJson? (.nat n.toNat) = some c ↔ ofCount n = .ok c := by
  rw [ofJson?, Json.toUInt32?_nat]
  exact except_toOption_eq_some

namespace RunPlan

/-- Of the two counts of a plan only the second is checked. -/
theorem ofJson?_of_fields {j : Json} {w n : UInt32}
    (h : j.fields ["warmup", "cycles"] = some [some (.nat w.toNat), some (.nat n.toNat)]) {p : RunPlan} :
    ofJson? j = some p ↔ p.warmup = w ∧ Cycles.ofCount n = .ok p.cycles := by
  have warmup := Json.toUInt32?_nat w
  rw [ofJson?, h, ← Cycles.ofJson?_nat]
  obtain ⟨u, c⟩ := p
  cases counted : Cycles.ofJson? (.nat n.toNat) with
  | none => simp [warmup, counted]
  | some d => simp [warmup, counted, eq_comm]

theorem ofCounts_iff_ofJson? {j : Json} {w n : UInt32}
    (h : j.fields ["warmup", "cycles"] = some [some (.nat w.toNat), some (.nat n.toNat)]) {p : RunPlan} :
    ofCounts w n = .ok p ↔ w ≤ maxRepetitions ∧ ofJson? j = some p := by
  rw [ofCounts_eq_ok, ofJson?_of_fields h, Cycles.ofCount_eq_ok]

end RunPlan

/-- **What is decoded passes the checks of its constructor, but for the warm-up count of a plan**: a text is decoded
as a tag, and a number as a cycle count, when and as the constructor makes it; two counts are decoded as a plan when
the second one passes, with the first one as it is, and so as `RunPlan.ofCounts` makes it just where the first one
is within its bound. -/
theorem decode_checked_but_warmup {text : String} {j : Json} (read : Json.ofText? text = some j) :
    (∀ s, j = .text s → ∀ t, Json.decode? WorkloadTag.ofJson? text = some t ↔ WorkloadTag.ofString s = .ok t) ∧
    (∀ n : UInt32, j = .nat n.toNat → ∀ c, Json.decode? Cycles.ofJson? text = some c ↔ Cycles.ofCount n = .ok c) ∧
    ∀ w n : UInt32, j.fields ["warmup", "cycles"] = some [some (.nat w.toNat), some (.nat n.toNat)] → ∀ p,
      (Json.decode? RunPlan.ofJson? text = some p ↔ p.warmup = w ∧ Cycles.ofCount n = .ok p.cycles) ∧
      (RunPlan.ofCounts w n = .ok p ↔ w ≤ maxRepetitions ∧ Json.decode? RunPlan.ofJson? text = some p) := by
  rw [Json.decode?_of_read read, Json.decode?_of_read read, Json.decode?_of_read read]
  refine ⟨?_, ?_, fun w n members p => ⟨RunPlan.ofJson?_of_fields members, RunPlan.ofCounts_iff_ofJson? members⟩⟩
  · rintro s rfl t
    exact WorkloadTag.ofJson?_text
  · rintro n rfl c
    exact Cycles.ofJson?_nat

namespace RunPlan

theorem ofText?_toJson (p : RunPlan) : Json.ofText? p.toJson.compactText = some p.toJson := by
  refine Json.ofText?_compactText (Json.proper_record ?_)
  simp [Cycles.toJson, Json.proper_nat]

theorem fields_toJson (p : RunPlan) :
    p.toJson.fields ["warmup", "cycles"] = some [some (.nat p.warmup.toNat), some (.nat p.cycles.count.toNat)] :=
  Json.fields_record (by simp) _

/-- A plan that warms up once more than it may. -/
def onceOver : RunPlan := ⟨1000001, .once⟩

end RunPlan

theorem decode_checked_but_warmup_onceOver :
    Json.decode? RunPlan.ofJson? RunPlan.onceOver.toJson.compactText = some RunPlan.onceOver ∧
    (¬ ∃ p, RunPlan.ofCounts 1000001 1 = .ok p) ∧
    (¬ ∃ t, Json.decode? WorkloadTag.ofJson? (Json.text "größe").compactText = some t) ∧
    ¬ ∃ c, Json.decode? Cycles.ofJson? (Json.nat 0).compactText = some c := by
  have plan := (decode_checked_but_warmup RunPlan.onceOver.ofText?_toJson).2.2 _ _ RunPlan.onceOver.fields_toJson
  have tag := (decode_checked_but_warmup (Json.ofText?_compactText (.text "größe"))).1 _ rfl
  have count := (decode_checked_but_warmup (Json.ofText?_compactText (Json.proper_nat 0))).2.1 0 rfl
  refine ⟨(plan _).1.2 ⟨rfl, rfl⟩, ?_, ?_, ?_⟩
  · rintro ⟨p, made⟩
    exact absurd ((plan p).2.1 made).1 (by decide)
  · rintro ⟨t, decoded⟩
    have chars := (WorkloadTag.ofString_isOk_iff.1 ⟨t, (tag t).1 decoded⟩).2.2
    exact absurd (chars 'ö' (by decide)) (by decide)
  · rintro ⟨c, decoded⟩
    have pos := (Cycles.ofCount_isOk_iff.1 ⟨c, (count c).1 decoded⟩).1
    exact absurd pos (by decide)

/-- Not every plan that is decoded is one that the constructor makes. -/
theorem not_every_decoded_plan_is_checked : ¬ ∀ (text : String) (w n : UInt32),
    Json.ofText? text = some (.record [("warmup", .nat w.toNat), ("cycles", .nat n.toNat)]) →
      ((∃ p, Json.decode? RunPlan.ofJson? text = some p) ↔ ∃ p, RunPlan.ofCounts w n = .ok p) := by
  intro all
  have read := RunPlan.onceOver.ofText?_toJson
  have decoded : Json.decode? RunPlan.ofJson? RunPlan.onceOver.toJson.compactText = some RunPlan.onceOver := by
    rw [Json.decode?_of_read read, RunPlan.ofJson?_of_fields RunPlan.onceOver.fields_toJson]
    exact ⟨rfl, rfl⟩
  obtain ⟨p, made⟩ := (all _ 1000001 1 read).1 ⟨_, decoded⟩
  exact absurd (RunPlan.ofCounts_eq_ok.1 made).1 (by decide)

end BenchSuite
