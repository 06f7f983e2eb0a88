import BenchSuite.Proofs.Machine.Commands
/-!
# Runs on a machine

A kernel comes to one result, however often it is called, so its result decides how a run under any plan ends
(`run_of_fault`, `run_of_error`, `run_of_outcome`).  A run that comes to an outcome has called the kernel as often as
the plan says, and what it leaves is the log of these calls and two readings of the clock; it touches no file.
-/
namespace BenchSuite

namespace Machine

/-- The machine with records added to its log, the first one first. -/
def tell (records : List LogRecord) (m : Machine) : Machine := { m with records := records.reverse ++ m.records }

theorem tell_tell (first second : List LogRecord) (m : Machine) :
    (m.tell first).tell second = m.tell (first ++ second) := by
  simp [tell]

theorem length_lt_tell {records : List LogRecord} (some : records ≠ []) (m : Machine) :
    m.records.length < (m.tell records).records.length := by
  have pos := List.length_pos_iff.2 some
  show m.records.length < (records.reverse ++ m.records).length
  rw [List.length_append, List.length_reverse]
  omega

theorem run_log : ∀ (records : List LogRecord) (m : Machine),
    (records.forM host.log).run m = .ok ((), m.tell records)
  | [], _ => rfl
  | record :: records, m => by
    have first : (host.log record).run m = .ok ((), m.tell [record]) := rfl
    refine (run_bind_ok first).trans ((run_log records _).trans ?_)
    rw [tell_tell, List.singleton_append]

end Machine

def Kernel.told (k : Kernel) (n : Nat) : List LogRecord := (List.replicate n k.run.records).flatten

theorem Kernel.told_succ (k : Kernel) (n : Nat) : k.told (n + 1) = k.run.records ++ k.told n := by
  rw [told, List.replicate_succ, List.flatten_cons]
  rfl

namespace Machine

def job (w : Workload) : Job MachineM := w.job host.log host.abort

variable {w : Workload} {m m' : Machine}

/-! ## Calls -/

theorem call_run (w : Workload) (m : Machine) : (job w).call.run m = match w.kernel.run.result with
    | .ok result => .ok (result, m.tell w.kernel.run.records)
    | .error fault => .error fault := by
  have chosen : (pure w.kernel : MachineM Kernel).run m = .ok (w.kernel, m) := rfl
  refine (run_bind_ok chosen).trans ((run_bind_ok (run_log _ m)).trans ?_)
  cases w.kernel.run.result <;> rfl

section

variable {o : Outcome} (outcome : w.kernel.run.result = .ok (.ok o))
include outcome

theorem warmUp_of_outcome : ∀ (n : Nat) (m : Machine),
    ((job w).warmUp n).run m = .ok (.ok (), m.tell (w.kernel.told n))
  | 0, _ => rfl
  | n + 1, m => by
    have called := call_run w m
    rw [outcome] at called
    refine (run_bind_ok called).trans ((warmUp_of_outcome n _).trans ?_)
    rw [tell_tell, Kernel.told_succ]

theorem callOn_of_outcome : ∀ (n : Nat) (m : Machine),
    ((job w).callOn n o).run m = .ok (.ok o, m.tell (w.kernel.told n))
  | 0, _ => rfl
  | n + 1, m => by
    have called := call_run w m
    rw [outcome] at called
    refine (run_bind_ok called).trans ((callOn_of_outcome n _).trans ?_)
    rw [tell_tell, Kernel.told_succ]

theorem measured_of_outcome (m : Machine) :
    (job w).measured.run m = .ok (.ok o, m.tell (w.kernel.told w.plan.cycles.count.toNat)) := by
  have pos : 1 ≤ w.plan.cycles.count.toNat := UInt32.le_iff_toNat_le.1 w.plan.cycles.pos
  have called := call_run w m
  rw [outcome] at called
  refine (run_bind_ok called).trans ((callOn_of_outcome outcome _ _).trans ?_)
  rw [tell_tell, ← Kernel.told_succ]
  show Except.ok (_, m.tell (w.kernel.told (w.plan.cycles.count.toNat - 1 + 1))) = _
  rw [Nat.sub_add_cancel pos]

end

/-! ## Runs -/

def warmUpRecord (w : Workload) : LogRecord :=
  (job w).note .debug "Starting warm-up phase" [("iterations", .number w.plan.warmup.toNat)]

def measuredRecord (w : Workload) : LogRecord :=
  (job w).note .debug "Starting measured phase" [("iterations", .number w.plan.cycles.count.toNat)]

/-- The ticks between the next two readings of the clock. -/
def nextTicks (m : Machine) : UInt64 := Clock.elapsedNanos (m.reading m.reads) (m.reading (m.reads + 1))

/-- The timing of a workload of which the measured calls took some milliseconds. -/
def timing (w : Workload) (o : Outcome) (ms : Float) : Timing :=
  .ofTotal w.tag w.plan.warmup w.plan.cycles.count ms o

def verdictRecord (w : Workload) (o : Outcome) (ms : Float) : LogRecord :=
  if w.accepts o then
    (job w).note .info "Workload complete" [("warmup", .number w.plan.warmup.toNat),
      ("cycles", .number w.plan.cycles.count.toNat), ("average_ms", .real (timing w o ms).averageMs)]
  else (job w).note .error "Verification failed" [("actual", .text o.text)]

def ticksRecord (w : Workload) (ticks : UInt64) : LogRecord :=
  (job w).note .debug "Measured phase finished" [("ticks", .number ticks.toNat)]

def verdict (w : Workload) (o : Outcome) (ms : Float) : Except BenchError Timing :=
  if w.accepts o then .ok (timing w o ms) else .error (.verification ⟨w.tag.text, o.text⟩)

theorem conclude_run (w : Workload) (o : Outcome) (ms : Float) (m : Machine) :
    ((job w).conclude host.log ms o).run m = .ok (verdict w o ms, m.tell [verdictRecord w o ms]) := by
  have asked : ((job w).accepts o).run m = .ok (w.accepts o, m) := rfl
  refine (run_bind_ok asked).trans ?_
  unfold verdict verdictRecord
  cases w.accepts o <;> rfl

/-- The milliseconds between the next two readings of the clock. -/
def nextMs (m : Machine) : Float := host.clock.ticksToMs m.nextTicks

/-- **All that is told by a run that comes to an outcome**: by the calls of its plan, and around them. -/
def told (w : Workload) (o : Outcome) (m : Machine) : List LogRecord :=
  warmUpRecord w :: w.kernel.told w.plan.warmup.toNat ++ measuredRecord w :: w.kernel.told w.plan.cycles.count.toNat ++
    [ticksRecord w m.nextTicks, verdictRecord w o m.nextMs]

theorem log_run (record : LogRecord) (m : Machine) : (host.log record).run m = .ok ((), m.tell [record]) := rfl

theorem now_run (m : Machine) :
    host.clock.now.run m = .ok (m.reading m.reads, { m with reads := m.reads + 1 }) := rfl

/-- **A run that comes to an outcome** makes all calls of its plan, reads the clock twice, and ends as the verdict on
the outcome does. -/
theorem run_of_outcome {o : Outcome} (outcome : w.kernel.run.result = .ok (.ok o)) (m : Machine) :
    (host.run w).run m = .ok (verdict w o m.nextMs, { m.tell (told w o m) with reads := m.reads + 2 }) := by
  refine (run_bind_ok (log_run (warmUpRecord w) m)).trans ?_
  refine (run_bind_ok (warmUp_of_outcome outcome w.plan.warmup.toNat _)).trans ?_
  refine (run_bind_ok (log_run (measuredRecord w) _)).trans ?_
  refine (run_bind_ok (now_run _)).trans ?_
  refine (run_bind_ok (measured_of_outcome outcome _)).trans ?_
  refine (run_bind_ok (now_run _)).trans ?_
  refine (run_bind_ok (log_run (ticksRecord w m.nextTicks) _)).trans ?_
  refine (conclude_run w o m.nextMs _).trans ?_
  simp [tell, told]

/-- The clock was read, or records were added, and there is at least one more record; all else is as before. -/
def Ran (m m' : Machine) : Prop :=
  ∃ reads records, records ≠ [] ∧ m' = { m.tell records with reads }

section

variable (w)

theorem warmUp_none (h : w.plan.warmup.toNat = 0) (m : Machine) :
    ((job w).warmUp w.plan.warmup.toNat).run m = .ok (.ok (), m) := by
  rw [h]
  rfl

/-- **A run that meets an error of its kernel** ends with it. -/
theorem run_of_error {e : KernelError} (failed : w.kernel.run.result = .ok (.error e)) (m : Machine) :
    ∃ m', (host.run w).run m = .ok (.error (.kernel e), m') ∧ Ran m m' := by
  have called := fun m => call_run w m
  simp only [failed] at called
  have begun := log_run (warmUpRecord w) m
  cases warmup : w.plan.warmup.toNat with
  | succ n =>
    have ended : ((job w).warmUp w.plan.warmup.toNat).run (m.tell [warmUpRecord w]) =
        .ok (.error e, (m.tell [warmUpRecord w]).tell w.kernel.run.records) := by
      rw [warmup]
      exact run_bind_ok (called _)
    rw [tell_tell] at ended
    refine ⟨_, (run_bind_ok begun).trans (run_bind_ok ended), m.reads, _, ?_, rfl⟩
    exact List.cons_ne_nil _ _
  | zero =>
    refine ⟨_, ?_, m.reads + 1, warmUpRecord w :: measuredRecord w :: w.kernel.run.records, List.cons_ne_nil _ _, rfl⟩
    refine (run_bind_ok begun).trans ((run_bind_ok (warmUp_none w warmup _)).trans ?_)
    refine (run_bind_ok (log_run (measuredRecord w) _)).trans ((run_bind_ok (now_run _)).trans ?_)
    refine (run_bind_ok (run_bind_ok (called _))).trans ?_
    show Except.ok (Except.error (BenchError.kernel e), _) = _
    simp [tell]

/-- A run that meets a fault of its kernel has no end. -/
theorem run_of_fault {fault : Fault} (failed : w.kernel.run.result = .error fault) (m : Machine) :
    (host.run w).run m = .error fault := by
  have called := fun m => call_run w m
  simp only [failed] at called
  refine (run_bind_ok (log_run (warmUpRecord w) m)).trans ?_
  cases warmup : w.plan.warmup.toNat with
  | succ n =>
    have ended : ((job w).warmUp w.plan.warmup.toNat).run (m.tell [warmUpRecord w]) = .error fault := by
      rw [warmup]
      exact run_bind_fault (called _)
    exact run_bind_fault ended
  | zero =>
    refine (run_bind_ok (warmUp_none w warmup _)).trans ?_
    refine (run_bind_ok (log_run (measuredRecord w) _)).trans ((run_bind_ok (now_run _)).trans ?_)
    exact run_bind_fault (run_bind_fault (called _))

end

end Machine
end BenchSuite
