import BenchSuite.Harness.Script
/-!
# What a run does, call by call

A run makes its warm-up calls and its measured calls off one sequence of results, so it is decided by
the first failure among them (`firstFailure`).  Each phase is one lemma on the transcript
(`warmUp_run`, `measured_run`, `conclude_run`), and a whole run is put together from them (`runUnder_eq`):
how often the kernel was called, when the clock was read, what was checked, and the log.
-/
namespace BenchSuite.Script

variable {τ : Type}

/-! ## A script under any clock -/

/-- A clock that reads off a sequence, and notes the calls made before each reading. -/
def clockOf (reading : Nat → τ) (elapsed : τ → τ → UInt64) (ticksPerMs : Float) :
    Clock (StateM Transcript) τ where
  now := modifyGet fun t => (reading t.reads.length, { t with reads := t.reads ++ [t.calls] })
  elapsed := elapsed
  ticksPerMs := ticksPerMs

/-- **A scripted run under a clock**: its result, and all that happened. -/
def runUnder (s : Script) (reading : Nat → τ) (elapsed : τ → τ → UInt64) (ticksPerMs : Float)
    (tag : WorkloadTag) (plan : RunPlan) : Except BenchError Timing × Transcript :=
  ((s.job tag plan).run (clockOf reading elapsed ticksPerMs) log).run Transcript.empty

theorem run_eq_runUnder (s : Script) (tag : WorkloadTag) (plan : RunPlan) :
    s.run tag plan = s.runUnder s.reading s.clock.elapsed s.clock.ticksPerMs tag plan := rfl

/-! ## The first failure -/

/-- **The first of `n` calls from call `i` on that fails**, and its error. -/
def firstFailure (s : Script) (i : Nat) : Nat → Option (Nat × KernelError)
  | 0 => none
  | n + 1 =>
    match s.result i with
    | .error e => some (i, e)
    | .ok _ => firstFailure s (i + 1) n

theorem firstFailure_eq_none (s : Script) : ∀ (n i : Nat),
    (∀ k < i + n, ∃ o, s.result k = .ok o) → s.firstFailure i n = none
  | 0, _, _ => rfl
  | n + 1, i, h => by
    obtain ⟨o, ho⟩ := h i (by omega)
    rw [firstFailure, ho]
    exact firstFailure_eq_none s n (i + 1) (fun k hk => h k (by omega))

theorem firstFailure_eq_some (s : Script) {k : Nat} {e : KernelError} (hk : s.result k = .error e)
    (before : ∀ j < k, ∃ o, s.result j = .ok o) : ∀ (n i : Nat), i ≤ k → k < i + n →
    s.firstFailure i n = some (k, e)
  | 0, i, h1, h2 => by omega
  | n + 1, i, h1, h2 => by
    by_cases hik : i = k
    · subst hik
      rw [firstFailure, hk]
    · obtain ⟨o, ho⟩ := before i (by omega)
      rw [firstFailure, ho]
      exact firstFailure_eq_some s hk before n (i + 1) (by omega) (by omega)

/-! ## The phases -/

theorem run_bind_of {σ α β : Type} {x : StateM σ α} {f : α → StateM σ β} {t t' : σ} {a : α}
    (h : x.run t = (a, t')) : (x >>= f).run t = (f a).run t' := by
  rw [StateT.run_bind, h]
  rfl

variable (s : Script) (tag : WorkloadTag) (plan : RunPlan)

theorem call_run (t : Transcript) :
    (s.job tag plan).call.run t = (s.result t.calls, { t with calls := t.calls + 1 }) := rfl

/-- **The warm-up** stops after its first failure. -/
theorem warmUp_run : ∀ (n : Nat) (t : Transcript),
    ((s.job tag plan).warmUp n).run t =
      match s.firstFailure t.calls n with
      | none => (.ok (), { t with calls := t.calls + n })
      | some (k, e) => (.error e, { t with calls := k + 1 })
  | 0, _ => rfl
  | n + 1, t => by
    rw [Job.warmUp, StateT.run_bind, call_run, firstFailure]
    cases h : s.result t.calls with
    | error e => rfl
    | ok o =>
      show ((s.job tag plan).warmUp n).run { t with calls := t.calls + 1 } = _
      rw [warmUp_run n]
      cases s.firstFailure (t.calls + 1) n with
      | none => simp only [Nat.add_assoc, Nat.add_comm 1 n]
      | some p => rfl

/-- The later calls, when the last outcome is that of the call just made. -/
theorem callOn_run : ∀ (n : Nat) (last : Outcome) (t : Transcript), s.result (t.calls - 1) = .ok last →
    ((s.job tag plan).callOn n last).run t =
      match s.firstFailure t.calls n with
      | none => (s.result (t.calls + n - 1), { t with calls := t.calls + n })
      | some (k, e) => (.error e, { t with calls := k + 1 })
  | 0, last, t, h => by
    rw [firstFailure]
    show (.ok last, t) = (s.result (t.calls - 1), t)
    rw [h]
  | n + 1, last, t, _ => by
    rw [Job.callOn, StateT.run_bind, call_run, firstFailure]
    cases h : s.result t.calls with
    | error e => rfl
    | ok o =>
      show ((s.job tag plan).callOn n o).run { t with calls := t.calls + 1 } = _
      rw [callOn_run n o { t with calls := t.calls + 1 } h]
      cases s.firstFailure (t.calls + 1) n with
      | none => simp only [Nat.add_assoc, Nat.add_comm 1 n]
      | some p => rfl

/-- **The measured calls** come to the result of the last of them, or stop after their first failure. -/
theorem measured_run (t : Transcript) :
    (s.job tag plan).measured.run t =
      match s.firstFailure t.calls plan.cycles.count.toNat with
      | none => (s.result (t.calls + plan.cycles.count.toNat - 1),
          { t with calls := t.calls + plan.cycles.count.toNat })
      | some (k, e) => (.error e, { t with calls := k + 1 }) := by
  obtain ⟨n, hn⟩ : ∃ n, plan.cycles.count.toNat = n + 1 := by
    have := UInt32.le_iff_toNat_le.1 plan.cycles.pos
    exact ⟨plan.cycles.count.toNat - 1, by rw [UInt32.toNat_one] at this; omega⟩
  rw [Job.measured, StateT.run_bind, call_run, hn, firstFailure]
  cases h : s.result t.calls with
  | error e => rfl
  | ok o =>
    show ((s.job tag plan).callOn (plan.cycles.count.toNat - 1) o).run { t with calls := t.calls + 1 } = _
    rw [hn, Nat.add_sub_cancel, callOn_run s tag plan n o { t with calls := t.calls + 1 } h]
    cases s.firstFailure (t.calls + 1) n with
    | none => simp only [Nat.add_assoc, Nat.add_comm 1 n]
    | some p => rfl

def timing (totalMs : Float) (last : Outcome) : Timing where
  tag := tag
  warmup := plan.warmup
  cycles := plan.cycles.count
  totalMs := totalMs
  averageMs := totalMs / Float.ofNat plan.cycles.count.toNat
  outcome := last

theorem ofTotal_eq (totalMs : Float) (last : Outcome) :
    Timing.ofTotal tag plan.warmup plan.cycles.count totalMs last = timing tag plan totalMs last := by
  have hne : plan.cycles.count ≠ 0 := fun h => by
    have := plan.cycles.pos
    rw [h] at this
    exact absurd this (by decide)
  rw [Timing.ofTotal, timing, if_neg hne]

/-- The record of the verdict: the timing where the outcome was accepted, and the outcome where not. -/
def verdictRecord (totalMs : Float) (last : Outcome) : LogRecord :=
  if s.accepts last then
    (s.job tag plan).note .info "Workload complete" [("warmup", .number plan.warmup.toNat),
      ("cycles", .number plan.cycles.count.toNat), ("average_ms", .real (timing tag plan totalMs last).averageMs)]
  else (s.job tag plan).note .error "Verification failed" [("actual", .text last.text)]

/-- **The verdict** is asked for once, and decides between a report and a mismatch. -/
theorem conclude_run (totalMs : Float) (last : Outcome) (t : Transcript) :
    ((s.job tag plan).conclude log totalMs last).run t =
      (if s.accepts last then .ok (timing tag plan totalMs last)
        else .error (.verification ⟨tag.text, last.text⟩),
      { t with checks := t.checks ++ [⟨last, t.reads.length⟩]
               records := t.records ++ [s.verdictRecord tag plan totalMs last] }) := by
  have ask : ((s.job tag plan).accepts last).run t =
      (s.accepts last, { t with checks := t.checks ++ [⟨last, t.reads.length⟩] }) := rfl
  rw [Job.conclude, StateT.run_bind, ask, verdictRecord]
  cases h : s.accepts last with
  | false => rfl
  | true =>
    simp only [if_true]
    rw [← ofTotal_eq]
    rfl

/-! ## The whole run -/

theorem log_run (record : LogRecord) (t : Transcript) :
    (log record).run t = ((), { t with records := t.records ++ [record] }) := rfl

theorem now_run (reading : Nat → τ) (elapsed : τ → τ → UInt64) (ticksPerMs : Float) (t : Transcript) :
    (clockOf reading elapsed ticksPerMs).now.run t =
      (reading t.reads.length, { t with reads := t.reads ++ [t.calls] }) := rfl

def warmUpRecord : LogRecord :=
  (s.job tag plan).note .debug "Starting warm-up phase" [("iterations", .number plan.warmup.toNat)]

def measuredRecord : LogRecord :=
  (s.job tag plan).note .debug "Starting measured phase" [("iterations", .number plan.cycles.count.toNat)]

def ticksRecord (ticks : UInt64) : LogRecord :=
  (s.job tag plan).note .debug "Measured phase finished" [("ticks", .number ticks.toNat)]

/-- **A whole run**, by the first failure of each phase. -/
theorem runUnder_eq (reading : Nat → τ) (elapsed : τ → τ → UInt64) (ticksPerMs : Float) :
    s.runUnder reading elapsed ticksPerMs tag plan =
      let w := plan.warmup.toNat
      let c := plan.cycles.count.toNat
      let ticks := elapsed (reading 0) (reading 1)
      let totalMs := (clockOf reading elapsed ticksPerMs).ticksToMs ticks
      let begun := [s.warmUpRecord tag plan]
      let warmed := [s.warmUpRecord tag plan, s.measuredRecord tag plan]
      match s.firstFailure 0 w with
      | some (k, e) => (.error (.kernel e), ⟨k + 1, [], [], begun⟩)
      | none =>
        match s.firstFailure w c with
        | some (k, e) => (.error (.kernel e), ⟨k + 1, [w], [], warmed⟩)
        | none =>
          match s.result (w + c - 1) with
          | .error e => (.error (.kernel e), ⟨w + c, [w], [], warmed⟩)
          | .ok last =>
            (if s.accepts last then .ok (timing tag plan totalMs last)
              else .error (.verification ⟨tag.text, last.text⟩),
            ⟨w + c, [w, w + c], [⟨last, 2⟩],
              warmed ++ [s.ticksRecord tag plan ticks, s.verdictRecord tag plan totalMs last]⟩) := by
  have warm := warmUp_run s tag plan plan.warmup.toNat ⟨0, [], [], [s.warmUpRecord tag plan]⟩
  rw [runUnder, Job.run]
  refine (run_bind_of (log_run (s.warmUpRecord tag plan) _)).trans ?_
  cases hw : s.firstFailure 0 plan.warmup.toNat with
  | some p =>
    rw [hw] at warm
    refine (run_bind_of warm).trans ?_
    simp only [hw]
    rfl
  | none =>
    have timed := measured_run s tag plan ⟨plan.warmup.toNat, [plan.warmup.toNat], [],
      [s.warmUpRecord tag plan, s.measuredRecord tag plan]⟩
    simp only [hw, Nat.zero_add] at warm
    refine (run_bind_of warm).trans ?_
    refine (run_bind_of (log_run (s.measuredRecord tag plan) _)).trans ?_
    refine (run_bind_of (now_run reading elapsed ticksPerMs _)).trans ?_
    cases hc : s.firstFailure plan.warmup.toNat plan.cycles.count.toNat with
    | some p =>
      rw [hc] at timed
      refine (run_bind_of timed).trans ?_
      simp only [hw, hc]
      rfl
    | none =>
      simp only [hc] at timed
      cases hl : s.result (plan.warmup.toNat + plan.cycles.count.toNat - 1) with
      | error e =>
        rw [hl] at timed
        refine (run_bind_of timed).trans ?_
        simp only [hw, hc, hl]
        rfl
      | ok last =>
        rw [hl] at timed
        refine (run_bind_of timed).trans ?_
        refine (run_bind_of (now_run reading elapsed ticksPerMs _)).trans ?_
        refine (run_bind_of (log_run _ _)).trans ?_
        rw [conclude_run]
        simp only [hw, hc, hl]
        rfl

end BenchSuite.Script
