import BenchSuite.Proofs.Files.Directory
/-!
# Commands on a machine

A step that only asks the files leaves the machine as it is, and its answer depends on the files alone (`Asks`).  A
command is followed part by part: what its first part comes to decides where it goes on (`CommandM.on_bind_ok`,
`CommandM.on_bind_error`).
-/
namespace BenchSuite

namespace Machine

variable {α β : Type}

/-- A step that only asks the files. -/
def Asks (x : MachineM α) : Prop := ∃ f : FileTree → Place → α, ∀ m, x.run m = .ok (f m.files m.dir, m)

theorem asks_ask (f : FileTree → Place → α) : Asks (ask f) := ⟨f, fun _ => rfl⟩

theorem asks_pure (a : α) : Asks (pure a) := ⟨fun _ _ => a, fun _ => rfl⟩

theorem Asks.bind {x : MachineM α} {f : α → MachineM β} (hx : Asks x) (hf : ∀ a, Asks (f a)) : Asks (x >>= f) := by
  obtain ⟨g, first⟩ := hx
  choose h next using hf
  refine ⟨fun t dir => h (g t dir) t dir, fun m => ?_⟩
  rw [run_bind_ok (first m), next]

/-- What a machine answers depends on its files alone. -/
theorem Asks.run_eq {x : MachineM α} (h : Asks x) {m m' m'' : Machine} {a : α} (answered : x.run m = .ok (a, m''))
    (files : m'.files = m.files) (dir : m'.dir = m.dir) : m'' = m ∧ x.run m' = .ok (a, m') := by
  obtain ⟨f, runs⟩ := h
  rw [runs] at answered
  obtain ⟨rfl, rfl⟩ := Prod.mk.inj (Except.ok.inj answered)
  rw [runs, files, dir]
  exact ⟨rfl, rfl⟩

theorem Asks.exists_run {x : MachineM α} (h : Asks x) (m : Machine) : ∃ a, x.run m = .ok (a, m) := by
  obtain ⟨f, runs⟩ := h
  exact ⟨_, runs m⟩

theorem asks_has (path : String) : Asks (fileSystem.has path) := asks_ask fun t dir => t.has dir path

theorem asks_read (path : String) : Asks (fileSystem.read path) := asks_ask fun t dir => t.read dir path

theorem asks_names (path : String) : Asks (fileSystem.names path) := asks_ask fun t dir => t.names dir path

theorem asks_readText (path : String) : Asks (fileSystem.readText path) := by
  refine (asks_read path).bind fun answer => ?_
  cases answer with
  | error e => exact asks_pure _
  | ok bytes => exact asks_pure _

theorem asks_load (path : String) : Asks (Config.load fileSystem path) := by
  refine (asks_has path).bind fun there => ?_
  split
  · refine (asks_readText path).bind fun answer => ?_
    cases answer <;> exact asks_pure _
  · exact asks_pure _

theorem asks_find (path : Option String) : Asks (Config.find fileSystem path) := by
  cases path with
  | some path => exact (asks_load path).bind fun _ => asks_pure _
  | none =>
    refine (asks_has _).bind fun there => ?_
    split
    · exact (asks_load _).bind fun _ => asks_pure _
    · exact asks_pure _

theorem asks_list (dir : String) : Asks (Archive.list ⟨fileSystem, dir⟩) := by
  refine (asks_names dir).bind fun answer => ?_
  cases answer <;> exact asks_pure _

theorem asks_loadReport (path : String) : Asks (Archive.load fileSystem path) := by
  refine (asks_readText path).bind fun answer => ?_
  cases answer <;> exact asks_pure _

theorem asks_latest (dir : String) : Asks (Archive.latest ⟨fileSystem, dir⟩) := by
  refine (asks_list dir).bind fun answer => ?_
  cases answer with
  | error e => exact asks_pure _
  | ok paths =>
    dsimp only
    cases paths.getLast? with
    | none => exact asks_pure _
    | some path =>
      refine (asks_loadReport path).bind fun answer => ?_
      cases answer <;> exact asks_pure _

end Machine

namespace CommandM

variable {α β : Type} {m m' m'' : Machine}

/-- What a part of a command comes to on a machine: its answer and the machine after it, or a fault. -/
def on (x : CommandM MachineM α) (m : Machine) : Checked (Except CommandError α × Machine) := x.run.run m

variable {x : CommandM MachineM α} {f : α → CommandM MachineM β}

theorem on_bind_ok {a : α} (h : x.on m = .ok (.ok a, m')) : (x >>= f).on m = (f a).on m' := by
  refine (run_bind_ok h).trans ?_
  rfl

theorem on_bind_error {e : CommandError} (h : x.on m = .ok (.error e, m')) : (x >>= f).on m = .ok (.error e, m') := by
  refine (run_bind_ok h).trans ?_
  rfl

theorem on_bind_fault {fault : Fault} (h : x.on m = .error fault) : (x >>= f).on m = .error fault := by
  show (x.run >>= _).run m = _
  rw [StateT.run_bind, show x.run.run m = .error fault from h]
  rfl

/-- **How a command with two parts answers.** -/
theorem on_bind_eq_ok {b : Except CommandError β} (h : (x >>= f).on m = .ok (b, m'')) :
    (∃ a m', x.on m = .ok (.ok a, m') ∧ (f a).on m' = .ok (b, m'')) ∨
      ∃ e, x.on m = .ok (.error e, m'') ∧ b = .error e := by
  rcases first : x.on m with fault | ⟨e | a, m'⟩
  · rw [on_bind_fault first] at h
    cases h
  · rw [on_bind_error first] at h
    obtain ⟨rfl, rfl⟩ := Prod.mk.inj (Except.ok.inj h)
    exact .inr ⟨e, rfl, rfl⟩
  · rw [on_bind_ok first] at h
    exact .inl ⟨a, m', rfl, h⟩

theorem on_bind_success {b : β} (h : (x >>= f).on m = .ok (.ok b, m'')) :
    ∃ a m', x.on m = .ok (.ok a, m') ∧ (f a).on m' = .ok (.ok b, m'') := by
  rcases on_bind_eq_ok h with done | ⟨e, -, failed⟩
  · exact done
  · cases failed

theorem on_lift_eq (x : MachineM α) (m : Machine) :
    on (liftM x : CommandM MachineM α) m = (x.run m).map fun r => (.ok r.1, r.2) := by
  show (Except.ok <$> x).run m = _
  rw [StateT.run_map]
  cases x.run m <;> rfl

/-- A step with errors of its own, as a part of a command. -/
theorem on_mapError_eq {ε : Type} (kind : ε → CommandError) (x : MachineM (Except ε α)) (m : Machine) :
    on (ExceptT.mk do return (← x).mapError kind) m = (x.run m).map fun r => (r.1.mapError kind, r.2) := by
  show (x >>= fun a => pure (a.mapError kind)).run m = _
  rw [StateT.run_bind]
  cases x.run m <;> rfl

theorem on_lift {x : MachineM α} {a : α} (h : x.run m = .ok (a, m')) :
    on (liftM x : CommandM MachineM α) m = .ok (.ok a, m') := by
  rw [on_lift_eq, h]
  rfl

theorem on_bench {x : MachineM (Except BenchError α)} {a : Except BenchError α} (h : x.run m = .ok (a, m')) :
    (bench x).on m = .ok (a.mapError .bench, m') := by
  refine (on_mapError_eq _ x m).trans ?_
  rw [h]
  rfl

theorem on_option (a : Except ValidationError α) (m : Machine) :
    (option a : CommandM MachineM α).on m = .ok (a.mapError .option, m) := rfl

theorem on_mapError_success {ε : Type} {kind : ε → CommandError} {x : MachineM (Except ε α)} {a : α}
    (h : on (ExceptT.mk do return (← x).mapError kind) m = .ok (.ok a, m')) : x.run m = .ok (.ok a, m') := by
  rw [on_mapError_eq] at h
  obtain ⟨⟨a', m''⟩, run, same⟩ := except_map_ok h
  obtain ⟨value, rfl⟩ := Prod.mk.inj same
  cases a' with
  | error e => cases value
  | ok a' => rw [run, ← Except.ok.inj value]

theorem on_bench_success {x : MachineM (Except BenchError α)} {a : α} (h : (bench x).on m = .ok (.ok a, m')) :
    x.run m = .ok (.ok a, m') := on_mapError_success h

theorem on_report_success {x : MachineM (Except ReportError α)} {a : α} (h : (report x).on m = .ok (.ok a, m')) :
    x.run m = .ok (.ok a, m') := on_mapError_success h

/-! ## Why commands fail -/

/-- The errors of a command are of one kind. -/
def Fails (P : CommandError → Prop) (x : CommandM MachineM α) : Prop := ∀ m e m', x.on m = .ok (.error e, m') → P e

variable {P : CommandError → Prop}

theorem fails_pure (a : α) : Fails P (pure a) := fun _ _ _ h => nomatch h

theorem Fails.bind (hx : Fails P x) (hf : ∀ a, Fails P (f a)) : Fails P (x >>= f) := by
  intro m e m'' h
  rcases on_bind_eq_ok h with ⟨a, m', -, second⟩ | ⟨e', first, same⟩
  · exact hf a _ _ _ second
  · rw [Except.error.inj same]
    exact hx _ _ _ first

theorem fails_lift (x : MachineM α) : Fails P (liftM x) := by
  intro m e m' h
  rw [on_lift_eq] at h
  obtain ⟨r, -, same⟩ := except_map_ok h
  cases (Prod.mk.inj same).1

theorem fails_mapError {ε : Type} {kind : ε → CommandError} {x : MachineM (Except ε α)}
    (errors : ∀ m e m', x.run m = .ok (.error e, m') → P (kind e)) :
    Fails P (ExceptT.mk do return (← x).mapError kind) := by
  intro m e m' h
  rw [on_mapError_eq] at h
  obtain ⟨⟨a, m''⟩, run, same⟩ := except_map_ok h
  cases a with
  | error e' =>
    rw [← Except.error.inj (Prod.mk.inj same).1]
    exact errors _ _ _ run
  | ok a => cases (Prod.mk.inj same).1

/-! ## Lines that are printed -/

theorem run_printAll : ∀ (lines : List String) (m : Machine),
    (Machine.host.printAll lines).run m = .ok ((), { m with output := m.output ++ lines })
  | [], m => by
    rw [List.append_nil]
    rfl
  | line :: lines, m => by
    have first : (Machine.host.print line).run m = .ok ((), { m with output := m.output ++ [line] }) := rfl
    refine (run_bind_ok first).trans ((run_printAll lines _).trans ?_)
    simp only [List.append_assoc, List.singleton_append]

end CommandM
end BenchSuite
