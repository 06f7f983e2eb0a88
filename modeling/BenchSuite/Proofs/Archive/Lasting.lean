import BenchSuite.Proofs.Archive.Times
import BenchSuite.Proofs.Json.Readable
import BenchSuite.Workload
/-!
# Timings that can be read again

Whatever a clock says, the times that are made of its ticks are zero or far from the ends of the range, so they are read
after they were written (`isSome_toFloat?_totalMs`, `isSome_toFloat?_averageMs`).  An outcome that is accepted for a golden
value is read too: near a reference there are only finite samples, and a word that is accepted is the golden one.  So every
timing that a suite makes is read with its tag, its counts and its outcome (`exists_readBack?`), and the text of a report
tells of all of them (`tells_savedText`).
-/
namespace BenchSuite

open Decimal (Moderate)
open Float.Model (UnpackedFloat)

/-! ## What comes back -/

/-- **What an outcome is read as**: itself, where it is no signal; and a signal as one of the same length, each sample as
what its text means. -/
def Outcome.ReadAs : Outcome → Outcome → Prop
  | .signal xs, .signal ys => List.Forall₂ (fun x y => (Json.float32 x).toFloat32? = some y) xs ys
  | o, o' => o' = o

/-- **What a timing is read as**: one of the same workload, with the same counts and the same outcome.  A short time is the
same, too, and another is what its text means. -/
structure Timing.ReadAs (t t' : Timing) : Prop extends t.ComesBack t' where
  warmup : t'.warmup = t.warmup
  cycles : t'.cycles = t.cycles
  total : (Json.float t.totalMs).toFloat? = some t'.totalMs
  average : (Json.float t.averageMs).toFloat? = some t'.averageMs
  outcome : t.outcome.ReadAs t'.outcome

theorem Outcome.readAs_of_readBack? {o o' : Outcome} (words : ∀ x ∈ o.doubles, (Json.float x).toFloat? = some x)
    (back : o.readBack? = some o') : o.ReadAs o' := by
  cases o with
  | signal xs =>
    obtain ⟨ys, read, rfl⟩ := Option.map_eq_some_iff.1 back
    exact forall₂_of_mapM read
  | scalar x =>
    obtain ⟨y, read, rfl⟩ := Option.map_eq_some_iff.1 back
    have same := words x List.mem_cons_self
    rw [read] at same
    exact congrArg scalar (Option.some.inj same)
  | count n | digest bytes | flag b => exact (Option.some.inj back).symm

theorem Timing.readAs_of_readBack? {t t' : Timing} (words : ∀ x ∈ t.outcome.doubles, (Json.float x).toFloat? = some x)
    (back : t.readBack? = some t') : t.ReadAs t' := by
  obtain ⟨total, average, o, read, read', outcome, rfl⟩ := readBack?_eq_some_iff.1 back
  exact ⟨comesBack_of_readBack? back, rfl, rfl, read, read', Outcome.readAs_of_readBack? words outcome⟩

/-! ## Times -/

theorem isSome_toFloat?_of_moderate {k : ℕ} {f : Float} (h : Moderate k f) (small : k ≤ 128) :
    (Json.float f).toFloat?.isSome = true := by
  obtain ⟨x, -, high, read⟩ := h.readFloat_eq
  exact Json.isSome_toFloat?_float read (high.trans (pow_le_pow_right₀ (by norm_num) small))

theorem moderate_totalMs {ticks : UInt64} (some : ticks ≠ 0) : Moderate 91 (ticks.toFloat / 1000000) := by
  have whole : Moderate 65 ticks.toFloat := Decimal.moderate_toFloat some ticks.toNat_lt.le
  have quotient := whole.div (Decimal.moderate_tenTo (e := 6) (by decide)) (by decide)
  rw [← Json.tenTo_six]
  exact quotient

theorem totalMs_zero : (0 : UInt64).toFloat / 1000000 = 0.0 := by
  rw [← Json.tenTo_six]
  exact Json.zero_div_tenTo 6 (by decide)

theorem isSome_toFloat?_totalMs (ticks : UInt64) : (Json.float (ticks.toFloat / 1000000)).toFloat?.isSome = true := by
  rcases eq_or_ne ticks 0 with rfl | some
  · rw [totalMs_zero, Json.toFloat?_float_zero.1]
    rfl
  · exact isSome_toFloat?_of_moderate (moderate_totalMs some) (by decide)

theorem isSome_toFloat?_averageMs (ticks : UInt64) (cycles : Cycles) :
    (Json.float (ticks.toFloat / 1000000 / Float.ofNat cycles.count.toNat)).toFloat?.isSome = true := by
  have count : Moderate 35 (Float.ofNat cycles.count.toNat) :=
    Decimal.moderate_ofNat (UInt32.le_iff_toNat_le.1 cycles.pos) cycles.count.toNat_lt
  rcases eq_or_ne ticks 0 with rfl | some
  · rw [totalMs_zero, count.zero_div, Json.toFloat?_float_zero.1]
    rfl
  · exact isSome_toFloat?_of_moderate ((moderate_totalMs some).div count (by decide)) (by decide)

/-! ## Outcomes -/

theorem unpack_pack_of_not_finite {u : UnpackedFloat} (h : u.isFinite = false) :
    (Float32.Model.pack u).unpack = u := by
  cases u with
  | notANumber => rfl
  | infinity s => cases s <;> rfl
  | zero | finite => cases h

theorem sub_not_finite (f : Float.Model.Format) {u : UnpackedFloat} (v : UnpackedFloat) (h : u.isFinite = false) :
    (u.sub f v).isFinite = false := by
  cases u with
  | notANumber => cases v <;> rfl
  | infinity s =>
    cases v with
    | infinity s' =>
      unfold UnpackedFloat.sub
      dsimp only
      split <;> rfl
    | _ => rfl
  | zero | finite => cases h

theorem abs_not_finite {u : UnpackedFloat} (h : u.isFinite = false) : u.abs.isFinite = false := by
  cases u with
  | notANumber | infinity s => rfl
  | zero | finite => cases h

theorem abs_not_lt {u : UnpackedFloat} (h : u.isFinite = false) : u.abs.lt Biquad.tolerance.toModel.unpack = false := by
  cases u with
  | notANumber | infinity s => rfl
  | zero | finite => cases h

/-- **What is near a finite number is finite.** -/
theorem isFinite_of_near {s r : Float32} (near : (s - r).abs < Biquad.tolerance) : s.isFinite = true := by
  by_contra infinite
  have none : s.toModel.unpack.isFinite = false := Bool.eq_false_iff.2 infinite
  have apart := sub_not_finite .binary32 r.toModel.unpack none
  have difference : (s - r).toModel.unpack = s.toModel.unpack.sub .binary32 r.toModel.unpack :=
    unpack_pack_of_not_finite apart
  have size : (s - r).abs.toModel.unpack = (s - r).toModel.unpack.abs := by
    rw [← difference] at apart
    exact unpack_pack_of_not_finite (abs_not_finite apart)
  have near : (s - r).abs.toModel.unpack.lt Biquad.tolerance.toModel.unpack = true := of_decide_eq_true near
  rw [size, difference, abs_not_lt apart] at near
  cases near

/-- A golden value for which only outcomes are accepted that are read as they were, signals apart. -/
def Golden.lasts : Golden → Bool
  | .outcome (.scalar _) | .outcome (.signal _) => false
  | .outcome _ | .near _ => true
  | .word x => (Json.float x).toFloat? = some x

/-- **Outcomes that are accepted for a lasting golden value**: a double is read as it was, and every single is finite. -/
theorem Golden.numbers_of_accepts {g : Golden} {o : Outcome} (lasts : g.lasts = true) (accepted : g.accepts o = true) :
    (∀ x ∈ o.doubles, (Json.float x).toFloat? = some x) ∧ ∀ x ∈ o.singles, x.isFinite = true := by
  cases o with
  | count n | digest bytes | flag b => exact ⟨fun _ h => (nomatch h), fun _ h => (nomatch h)⟩
  | scalar x =>
    refine ⟨?_, fun _ h => (nomatch h)⟩
    cases g with
    | outcome expected =>
      cases expected with
      | scalar => cases lasts
      | _ => cases accepted
    | word expected =>
      have same : x = expected := Float.toBits_inj.1 (beq_iff_eq.1 accepted)
      rintro _ (- | ⟨_, ⟨⟩⟩)
      rw [same]
      exact of_decide_eq_true lasts
    | near => cases accepted
  | signal samples =>
    refine ⟨fun _ h => (nomatch h), fun s mem => ?_⟩
    cases g with
    | outcome expected =>
      cases expected with
      | signal => cases lasts
      | _ => cases accepted
    | word => cases accepted
    | near reference =>
      obtain ⟨length, close⟩ := Bool.and_eq_true_iff.1 accepted
      have mem : s ∈ samples := mem
      rw [← List.map_fst_zip (beq_iff_eq.1 length).le] at mem
      obtain ⟨⟨s, r⟩, pair, rfl⟩ := List.mem_map.1 mem
      have near := List.all_eq_true.1 close _ pair
      dsimp only at near
      exact isFinite_of_near (of_decide_eq_true near)

theorem lasts_suite : ∀ w ∈ Workload.suite, w.golden.lasts = true := by decide +kernel

/-- **Every timing that a clock and an accepted outcome make is read**, whatever the clock says. -/
theorem Timing.exists_readBack? {g : Golden} {o : Outcome} (lasts : g.lasts = true) (accepted : g.accepts o = true)
    (tag : WorkloadTag) (warmup : UInt32) (cycles : Cycles) (ticks : UInt64) :
    ∃ t', (ofTotal tag warmup cycles.count (ticks.toFloat / 1000000) o).readBack? = some t' ∧
      (ofTotal tag warmup cycles.count (ticks.toFloat / 1000000) o).ReadAs t' := by
  obtain ⟨words, finite⟩ := Golden.numbers_of_accepts lasts accepted
  have some : cycles.count ≠ 0 := by
    intro none
    exact absurd (none ▸ cycles.pos) (by decide)
  have average : (ofTotal tag warmup cycles.count (ticks.toFloat / 1000000) o).averageMs =
      ticks.toFloat / 1000000 / Float.ofNat cycles.count.toNat := if_neg some
  have readable : (ofTotal tag warmup cycles.count (ticks.toFloat / 1000000) o).readBack?.isSome = true := by
    rw [isSome_readBack?, doubles, List.forall_mem_cons, List.forall_mem_cons, average]
    refine ⟨⟨isSome_toFloat?_totalMs ticks, isSome_toFloat?_averageMs ticks cycles, fun x mem => ?_⟩, fun x mem => ?_⟩
    · rw [words x mem]
      rfl
    · exact Json.isSome_toFloat32?_float32 (finite x mem)
  obtain ⟨t', back⟩ := Option.isSome_iff_exists.1 readable
  exact ⟨t', back, readAs_of_readBack? words back⟩

/-! ## Reports -/

theorem exists_mapM {α β : Type} {f : α → Option β} {R : α → β → Prop} : ∀ {xs : List α},
    (∀ x ∈ xs, ∃ y, f x = some y ∧ R x y) → ∃ ys, xs.mapM f = some ys ∧ List.Forall₂ R xs ys
  | [], _ => ⟨[], rfl, .nil⟩
  | x :: xs, h => by
    obtain ⟨⟨y, read, first⟩, others⟩ := List.forall_mem_cons.1 h
    obtain ⟨ys, rest, all⟩ := exists_mapM others
    refine ⟨y :: ys, ?_, .cons first all⟩
    rw [List.mapM_cons, read, rest]
    rfl

namespace SuiteReport

/-- **A text tells of a suite** that was started at a time, on a host if any is named: it is JSON, and the timings of the
suite are read from its results, in their order.  With a time that can be read, it is read as a report. -/
def Tells (text : String) (time : Timestamp) (info : Option SystemInfo) (ts : List Timing) : Prop :=
  ∃ j items back, Json.ofText? text = some j ∧
    j.fields ["suite", "version", "timestamp", "results"] =
      some [some (.text "microbench"), some (.text "1.0.0"), some (.text time.text), some (.array items)] ∧
    items.mapM Timing.ofJson? = some back ∧ List.Forall₂ Timing.ReadAs ts back ∧
    (time.Stamped → ofText? text = some ⟨"microbench", "1.0.0", time, info, back⟩)

theorem fields_toJson (r : SuiteReport) : r.toJson.fields ["suite", "version", "timestamp", "results"] =
    some [some (.text r.suite), some (.text r.version), some (.text r.timestamp.text),
      some (.array (r.results.map Timing.toJson))] := by
  unfold toJson
  cases r.systemInfo with
  | none =>
    rw [Json.fields_record (by simp)]
    rfl
  | some s =>
    rw [Json.fields_record (by simp)]
    rfl

theorem tells_savedText (time : Timestamp) (info : Option SystemInfo) {ts : List Timing}
    (readable : ∀ t ∈ ts, ∃ t', t.readBack? = some t' ∧ t.ReadAs t') :
    Tells (savedText { start time info with results := ts }) time info ts := by
  obtain ⟨back, read, all⟩ := exists_mapM readable
  refine ⟨_, _, back, Json.ofText?_prettyText (proper_toJson _), fields_toJson _, ?_, all, fun stamped => ?_⟩
  · rw [List.mapM_map]
    exact (congrArg (fun f => ts.mapM f) (funext Timing.ofJson?_toJson)).trans read
  · rw [ofText?_savedText, readBack?_of_stamped stamped]
    exact congrArg (Option.map _) read

end SuiteReport
end BenchSuite
