import BenchSuite.Proofs.Archive.Lasting
import BenchSuite.Proofs.Command.Lines
import BenchSuite.Proofs.Files.Making
import BenchSuite.Proofs.Machine.Running
/-!
# Suites that are run and reports that are kept

The workloads of a suite are run one after the other, and the report is made of their timings (`runAll_success`), which
are also printed in a summary (`run_printSummary`).  When it is kept, directories on the way to its directory are made, the
latest report there is read, and one file is written, from which the timings are read again (`keep_success`).
-/
namespace BenchSuite.Machine

open CommandM
open FileTree (Grows Passes placeOf)

variable {w : Workload} {m m' : Machine}

/-! ## Runs of workloads -/

/-- How a run ends that ends at all. -/
theorem run_inv {a : Except BenchError Timing} (h : (host.run w).run m = .ok (a, m')) : Ran m m' ∧
    ((∃ o, w.kernel.run.result = .ok (.ok o) ∧ a = verdict w o m.nextMs) ∨ ∃ e, a = .error (.kernel e)) := by
  cases result : w.kernel.run.result with
  | error fault =>
    rw [run_of_fault w result m] at h
    cases h
  | ok result' =>
    cases result' with
    | error e =>
      obtain ⟨m₁, run, ran⟩ := run_of_error w result m
      rw [run] at h
      obtain ⟨rfl, rfl⟩ := Prod.mk.inj (Except.ok.inj h)
      exact ⟨ran, .inr ⟨e, rfl⟩⟩
    | ok o =>
      rw [run_of_outcome result m] at h
      obtain ⟨rfl, rfl⟩ := Prod.mk.inj (Except.ok.inj h)
      exact ⟨⟨_, _, List.cons_ne_nil _ _, rfl⟩, .inl ⟨o, rfl, rfl⟩⟩

/-- **A timing of a workload** under its plan: of an outcome that its kernel comes to and that is the golden one, and of
ticks of the clock. -/
def TimingOf (w : Workload) (t : Timing) : Prop :=
  ∃ o ticks, w.kernel.run.result = .ok (.ok o) ∧ w.accepts o = true ∧ t = timing w o (host.clock.ticksToMs ticks)

theorem TimingOf.tag_eq {t : Timing} (h : TimingOf w t) : t.tag = w.tag := by
  obtain ⟨o, ms, -, -, rfl⟩ := h
  rfl

theorem timingOf_of_run {t : Timing} (h : (host.run w).run m = .ok (.ok t, m')) : Ran m m' ∧ TimingOf w t := by
  obtain ⟨ran, ⟨o, outcome, judged⟩ | ⟨e, failed⟩⟩ := run_inv h
  · unfold verdict at judged
    split at judged
    · rename_i accepted
      exact ⟨ran, o, m.nextTicks, outcome, accepted, Except.ok.inj judged⟩
    · cases judged
  · cases failed

/-- Timings of workloads with lasting golden values are read after they were written. -/
theorem exists_readAs {ws : List Workload} (lasts : ∀ w ∈ ws, w.golden.lasts = true) {ts : List Timing}
    (timings : List.Forall₂ TimingOf ws ts) : ∀ t ∈ ts, ∃ t', t.readBack? = some t' ∧ t.ReadAs t' := by
  induction timings with
  | nil => exact fun _ h => nomatch h
  | cons first _ ih =>
    obtain ⟨here, others⟩ := List.forall_mem_cons.1 lasts
    obtain ⟨o, ticks, -, accepted, rfl⟩ := first
    exact List.forall_mem_cons.2 ⟨Timing.exists_readBack? here accepted _ _ _ ticks, ih others⟩

/-- What a command keeps of a machine while it runs workloads and prints. -/
structure Undisturbed (m m' : Machine) : Prop where
  files : m'.files = m.files
  dir : m'.dir = m.dir
  time : m'.time = m.time

theorem Undisturbed.trans {m'' : Machine} (first : Undisturbed m m') (second : Undisturbed m' m'') : Undisturbed m m'' :=
  ⟨second.files.trans first.files, second.dir.trans first.dir, second.time.trans first.time⟩

/-- **The workloads of a suite that succeeds** are run in their order, each once, and printed. -/
theorem runAll_success : ∀ {ws : List Workload} {report report' : SuiteReport} {m m' : Machine},
    (host.runAll ws report).on m = .ok (.ok report', m') →
    ∃ ts : List Timing, List.Forall₂ TimingOf ws ts ∧ report' = { report with results := report.results ++ ts } ∧
      Undisturbed m m' ∧ m'.output = m.output ++ ts.flatMap fun t => [Lines.timing t, ""]
  | [], report, report', m, m', h => by
    obtain ⟨same, rfl⟩ := Prod.mk.inj (Except.ok.inj h)
    obtain rfl := Except.ok.inj same
    exact ⟨[], .nil, by simp, ⟨rfl, rfl, rfl⟩, by simp⟩
  | w :: ws, report, report', m, m', h => by
    obtain ⟨t, m₁, first, h⟩ := on_bind_success h
    obtain ⟨⟨_, _, -, rfl⟩, timed⟩ := timingOf_of_run (on_bench_success first)
    rw [on_bind_ok (on_lift (run_printAll _ _))] at h
    obtain ⟨ts, timings, rfl, same, output⟩ := runAll_success h
    refine ⟨t :: ts, .cons timed timings, ?_, ⟨same.files, same.dir, same.time⟩, ?_⟩
    · simp [SuiteReport.add]
    · rw [output]
      simp [tell, Lines.text_eq]

theorem run_results : ∀ (ts : List Timing) (m : Machine),
    (ts.forM fun t => do host.print (← host.checked (Table.summaryRow t))).run m =
      .ok ((), { m with output := m.output ++ ts.map Lines.result })
  | [], m => by
    rw [List.map_nil, List.append_nil]
    rfl
  | t :: ts, m => by
    have first : (do host.print (← host.checked (Table.summaryRow t))).run m =
        .ok ((), { m with output := m.output ++ [Lines.result t] }) := by
      rw [Lines.summaryRow_eq]
      rfl
    refine (run_bind_ok first).trans ((run_results ts _).trans ?_)
    simp only [List.append_assoc, List.singleton_append, List.map_cons]

theorem run_printSummary (report : SuiteReport) (m : Machine) :
    (host.printSummary report).run m = .ok ((), { m with output := m.output ++ Lines.summary report.results }) := by
  refine (run_bind_ok (run_printAll _ m)).trans ((run_bind_ok (run_results _ _)).trans ((run_printAll _ _).trans ?_))
  simp only [Lines.summary_eq, List.append_assoc]

/-! ## Reports that are kept -/

variable {dir : String} {report : SuiteReport}

theorem create_run {archive : Archive MachineM} (h : (Archive.create fileSystem dir).run m = .ok (.ok archive, m')) :
    archive = ⟨fileSystem, dir⟩ ∧ ∃ t, m' = { m with files := t } ∧ Grows (Passes m.dir dir) m.files t := by
  obtain ⟨answer, m₁, made, h⟩ := run_bind_eq_ok h
  cases answer with
  | error e => cases (Prod.mk.inj (Except.ok.inj h)).1
  | ok _ =>
    obtain ⟨same, rfl⟩ := Prod.mk.inj (Except.ok.inj h)
    exact ⟨(Except.ok.inj same).symm, makeWithin_run made⟩

theorem save_success {path : String} (h : (Archive.save ⟨fileSystem, dir⟩ report).run m = .ok (.ok path, m')) :
    path = Path.join dir report.fileName ∧ m'.output = m.output ∧
      m.files.seen? (placeOf m.dir dir) = some .directory ∧
      ∀ q, m'.files.seen? q = if q = placeOf m.dir dir ++ [report.fileName] then some (.file report.savedText.toUTF8)
        else m.files.seen? q := by
  obtain ⟨answer, m₁, wrote, h⟩ := run_bind_eq_ok h
  cases answer with
  | error e => cases (Prod.mk.inj (Except.ok.inj h)).1
  | ok _ =>
    obtain ⟨same, rfl⟩ := Prod.mk.inj (Except.ok.inj h)
    have run := change_run (fun t d => t.write d (Path.join dir report.fileName) report.savedText.toUTF8) m
    have wrote : (change fun t d => t.write d (Path.join dir report.fileName) report.savedText.toUTF8).run m =
      .ok (.ok (), m₁) := wrote
    rw [wrote] at run
    cases written : m.files.write m.dir (Path.join dir report.fileName) report.savedText.toUTF8 with
    | error e =>
      rw [written] at run
      cases run
    | ok t =>
      rw [written] at run
      obtain ⟨-, rfl⟩ := Prod.mk.inj (Except.ok.inj run)
      refine ⟨(Except.ok.inj same).symm, rfl, ?_⟩
      exact FileTree.seen?_write ⟨report.no_slash_fileName, report.leads_fileName⟩ written

/-- A report can be read from the file at a place. -/
def ReportAt (t : FileTree) (q : Place) (report : SuiteReport) : Prop :=
  ∃ text : String, t.seen? q = some (.file text.toUTF8) ∧ SuiteReport.ofText? text = some report

/-- Directories that are made hold no report. -/
theorem ReportAt.of_grows {At : Place → Prop} {t t' : FileTree} {q : Place} (h : ReportAt t' q report)
    (grows : Grows At t t') : ReportAt t q report := by
  obtain ⟨text, held, read⟩ := h
  refine ⟨text, ?_, read⟩
  rcases grows q with same | ⟨-, -, directory⟩
  · rw [← same, held]
  · rw [directory] at held
    cases held

theorem toUTF8_of_fromUTF8? {bytes : ByteArray} {text : String} (h : String.fromUTF8? bytes = some text) :
    text.toUTF8 = bytes := by
  unfold String.fromUTF8? at h
  split at h
  · rw [← Option.some.inj h]
    rfl
  · cases h

theorem reportAt_of_load {path : String} (h : (Archive.load fileSystem path).run m = .ok (.ok report, m')) :
    ReportAt m.files (placeOf m.dir path) report := by
  obtain ⟨answer, m₁, read, h⟩ := run_bind_eq_ok h
  obtain ⟨bytes, m₂, asked, read⟩ := run_bind_eq_ok read
  have same : bytes = m.files.read m.dir path := (Prod.mk.inj (Except.ok.inj asked)).1.symm
  cases bytes with
  | error e =>
    obtain ⟨rfl, -⟩ := Prod.mk.inj (Except.ok.inj read)
    cases (Prod.mk.inj (Except.ok.inj h)).1
  | ok bytes =>
    obtain ⟨rfl, -⟩ := Prod.mk.inj (Except.ok.inj read)
    cases decoded : String.fromUTF8? bytes with
    | none =>
      rw [decoded] at h
      cases (Prod.mk.inj (Except.ok.inj h)).1
    | some text =>
      rw [decoded] at h
      have h := (Prod.mk.inj (Except.ok.inj h)).1
      cases parsed : SuiteReport.ofText? text with
      | none =>
        rw [parsed] at h
        cases h
      | some report' =>
        rw [parsed] at h
        obtain rfl := Except.ok.inj h
        refine ⟨text, ?_, parsed⟩
        rw [toUTF8_of_fromUTF8? decoded]
        exact FileTree.seen?_of_read same.symm

theorem reportAt_of_latest (h : (Archive.latest ⟨fileSystem, dir⟩).run m = .ok (.ok (some report), m')) :
    ∃ q, ReportAt m.files q report := by
  obtain ⟨listed, m₁, list, h⟩ := run_bind_eq_ok h
  obtain rfl : m₁ = m := ((asks_list dir).run_eq list rfl rfl).1
  cases listed with
  | error e => cases (Prod.mk.inj (Except.ok.inj h)).1
  | ok paths =>
    dsimp only at h
    cases last : paths.getLast? with
    | none =>
      rw [last] at h
      cases (Prod.mk.inj (Except.ok.inj h)).1
    | some path =>
      rw [last] at h
      obtain ⟨loaded, m₂, load, h⟩ := run_bind_eq_ok h
      cases loaded with
      | error e => cases (Prod.mk.inj (Except.ok.inj h)).1
      | ok report' =>
        obtain ⟨same, -⟩ := Prod.mk.inj (Except.ok.inj h)
        obtain rfl := Option.some.inj (Except.ok.inj same)
        exact ⟨_, reportAt_of_load load⟩

/-- What is printed about the latest report, if there is one that can be read. -/
def compared (ts : List Timing) (info : Option SystemInfo) : Except ReportError (Option SuiteReport) → List String
  | .ok (some past) => Lines.comparison ts info past
  | _ => []

/-- **What keeping the timings of a suite changes**: directories are made on the way to the directory, the latest report
there is looked up among the files that were on disk before, and then one file is written, which is named for the time and
tells of the timings. -/
structure Kept (m m' : Machine) (dir : String) (info : Option SystemInfo) (ts : List Timing) (made : FileTree)
    (found : Except ReportError (Option SuiteReport)) : Prop where
  grows : Grows (Passes m.dir dir) m.files made
  latest : (Archive.latest ⟨fileSystem, dir⟩).run { m with files := made } = .ok (found, { m with files := made })
  old : ∀ past, found = .ok (some past) → ∃ q, ReportAt m.files q past
  directory : made.seen? (placeOf m.dir dir) = some .directory
  written : ∃ text, SuiteReport.Tells text m.time info ts ∧
    ∀ q, m'.files.seen? q = if q = placeOf m.dir dir ++ [Lines.fileName m.time] then some (.file text.toUTF8)
      else made.seen? q

theorem keep_success {info : Option SystemInfo} {ts : List Timing}
    (readable : ∀ t ∈ ts, ∃ t', t.readBack? = some t' ∧ t.ReadAs t')
    (h : (host.keep { SuiteReport.start m.time info with results := ts } dir).on m = .ok (.ok (), m')) :
    ∃ made found, Kept m m' dir info ts made found ∧ m'.output = m.output ++ compared ts info found ++
      ["", "Suite report saved to: " ++ Path.join dir (Lines.fileName m.time)] := by
  have tells := SuiteReport.tells_savedText m.time info readable
  have named : SuiteReport.fileName { SuiteReport.start m.time info with results := ts } = Lines.fileName m.time :=
    Lines.fileName_eq _
  have lines : ∀ past, Host.comparison { SuiteReport.start m.time info with results := ts } past =
      Lines.comparison ts info past := Lines.comparison_eq _
  generalize { SuiteReport.start m.time info with results := ts } = report at h tells named lines
  unfold Host.keep at h
  obtain ⟨archive, m₁, created, h⟩ := on_bind_success h
  obtain ⟨rfl, made, rfl, grows⟩ := create_run (on_report_success created)
  obtain ⟨found, latest⟩ := (asks_latest dir).exists_run { m with files := made }
  rw [on_bind_ok (on_lift latest)] at h
  have compares : ∃ m₂ : Machine, on (do
        let path ← CommandM.report (Archive.save ⟨fileSystem, dir⟩ report)
        host.printAll ["", "Suite report saved to: " ++ path]) m₂ = .ok (.ok (), m') ∧
      m₂.files = made ∧ m₂.dir = m.dir ∧ m₂.output = m.output ++ compared ts info found := by
    match found with
    | .ok (some baseline) =>
      dsimp only at h
      rw [on_bind_ok (on_lift (run_printAll _ _)), lines] at h
      exact ⟨_, h, rfl, rfl, rfl⟩
    | .ok none => exact ⟨_, h, rfl, rfl, (List.append_nil _).symm⟩
    | .error e =>
      dsimp only at h
      rw [on_bind_ok (on_lift (log_run _ _))] at h
      exact ⟨_, h, rfl, rfl, (List.append_nil _).symm⟩
  obtain ⟨m₂, h, files, dir₂, output⟩ := compares
  obtain ⟨path, m₃, saved, h⟩ := on_bind_success h
  obtain ⟨rfl, output₃, there, entries⟩ := save_success (on_report_success saved)
  rw [on_lift (run_printAll _ _)] at h
  obtain ⟨-, rfl⟩ := Prod.mk.inj (Except.ok.inj h)
  rw [files, dir₂] at there entries
  rw [named] at entries
  rw [← named]
  refine ⟨made, found, ⟨grows, latest, fun past same => ?_, there, _, tells, entries⟩, by rw [output₃, output]⟩
  subst same
  obtain ⟨q, held⟩ := reportAt_of_latest latest
  exact ⟨q, held.of_grows grows⟩

end BenchSuite.Machine
