import Mathlib.Data.Set.List
import BenchSuite.Proofs.Command.Planning
import BenchSuite.Proofs.Command.Reporting
/-!
# What a suite does to files

A suite that is asked for something that it cannot do, by a bad run plan or a bad tag, leaves the machine as it was.  One
that succeeds has run the selected workloads, and has made the directories on the way to its report and written the
report, after it looked up the one to compare with (`suite_effect`).
-/
namespace BenchSuite

/-- An error of what was asked for: of the run plan, or of a tag on the command line. -/
def CommandError.Refusal : CommandError → Prop
  | .bench (.kernel _) | .bench (.verification _) | .report _ | .invalidFile _ => False
  | .bench _ | .option _ => True

theorem Config.refusal_of_ofText {text : String} {e : BenchError} (h : ofText text = .error e) :
    (CommandError.bench e).Refusal := by
  unfold ofText at h
  split at h
  · rw [← Except.error.inj h]
    trivial
  · split at h
    · rw [← Except.error.inj h]
      trivial
    · cases h

/-! ## Choices of workloads -/

theorem WorkloadTag.mapM_ofString : ∀ {only : List String} {tags : List WorkloadTag},
    only.mapM ofString = .ok tags ↔ tags.map (·.text) = only
  | [], tags => by
    rw [List.mapM_nil, List.map_eq_nil_iff]
    exact ⟨fun h => (Except.ok.inj h).symm, fun h => congrArg Except.ok h.symm⟩
  | s :: only, tags => by
    rw [List.mapM_cons, List.map_eq_cons_iff]
    constructor
    · intro h
      obtain ⟨t, first, h⟩ := except_bind_ok h
      obtain ⟨ts, rest, h⟩ := except_bind_ok h
      exact ⟨t, ts, (Except.ok.inj h).symm, ofString_eq_ok.1 first, mapM_ofString.1 rest⟩
    · rintro ⟨t, ts, rfl, first, rest⟩
      rw [ofString_eq_ok.2 first, mapM_ofString.2 rest]
      rfl

namespace Machine

open CommandM
open FileTree (Grows Passes placeOf)

variable {m m' : Machine} {path : Option String} {config : Option Config} {e : BenchError}

theorem refusal_of_find (h : (Config.find fileSystem path).run m = .ok (.error e, m')) :
    (CommandError.bench e).Refusal := by
  rcases find_cases h with none | ⟨file, loaded, run, same⟩
  · cases none
  · obtain rfl : loaded = .error e := by
      cases loaded with
      | error e' => rw [Except.error.inj same]
      | ok config => cases same
    rcases load_cases run with missing | ⟨cause, unreadable⟩ | ⟨text, invalid⟩
    · rw [Except.error.inj missing]
      trivial
    · rw [Except.error.inj unreadable]
      trivial
    · exact Config.refusal_of_ofText invalid.symm

/-- The workloads of which the tag is named; all where none is named. -/
def chosen (only : List String) (ws : List Workload) : List Workload :=
  ws.filter fun w => only = [] ∨ w.tag.text ∈ only

theorem retain_named (r : Registry) (tags : List WorkloadTag) (some : tags ≠ []) :
    ((∀ t ∈ tags, t ∈ r.tags) ∧ r.retain tags = (.ok (), ⟨chosen (tags.map (·.text)) r.workloads⟩)) ∨
      ∃ t ∈ tags, t ∉ r.tags ∧ r.retain tags = (.error (.unknownWorkload t.text), r) := by
  rcases r.retain_cases tags with unknown | ⟨known, retained⟩
  · exact .inr unknown
  · refine .inl ⟨known, ?_⟩
    rw [retained]
    have same : (fun w : Workload => tags.contains w.tag) =
        fun w => decide (tags.map (·.text) = [] ∨ w.tag.text ∈ tags.map (·.text)) := by
      funext w
      rw [Bool.eq_iff_iff, List.contains_iff_mem, decide_eq_true_iff, List.map_eq_nil_iff, or_iff_right some]
      exact (List.mem_map_of_injective fun _ _ => WorkloadTag.text_injective).symm
    rw [chosen, same]

/-- **A choice** is made, or refused for a text that is no tag of a workload. -/
theorem choose_run (r : Registry) (only : List String) (m : Machine) :
    ((∀ s ∈ only, ∃ t ∈ r.tags, t.text = s) ∧
      (Host.choose r only).on m = .ok (.ok ⟨chosen only r.workloads⟩, m)) ∨
    (∃ s ∈ only, ∀ t ∈ r.tags, t.text ≠ s) ∧
      ∃ e : CommandError, e.Refusal ∧ (Host.choose r only).on m = .ok (.error e, m) := by
  unfold Host.choose
  by_cases all : only = []
  · subst all
    refine .inl ⟨by simp, ?_⟩
    have kept : chosen [] r.workloads = r.workloads := by simp [chosen]
    rw [if_pos rfl, kept]
    rfl
  · rw [if_neg all]
    cases read : only.mapM WorkloadTag.ofString with
    | error e =>
      -- if every text were the tag of a workload, all would be read as tags
      refine .inr ⟨?_, .option e, trivial, on_bind_error (on_option (.error e) m)⟩
      by_contra tagged
      push Not at tagged
      have range : only ∈ Set.range (List.map WorkloadTag.text) := by
        rw [Set.range_list_map]
        exact fun s mem => (tagged s mem).imp fun _ => And.right
      obtain ⟨tags, same⟩ := range
      rw [WorkloadTag.mapM_ofString.2 same] at read
      cases read
    | ok tags =>
      obtain rfl := WorkloadTag.mapM_ofString.1 read
      rw [on_bind_ok (on_option (.ok tags) m)]
      rcases retain_named r tags (fun none => all (List.map_eq_nil_iff.2 none)) with
        ⟨known, retained⟩ | ⟨t, named, unknown, refused⟩
      · refine .inl ⟨?_, ?_⟩
        · rintro s mem
          obtain ⟨t, named, rfl⟩ := List.mem_map.1 mem
          exact ⟨t, known t named, rfl⟩
        · rw [retained]
          rfl
      · refine .inr ⟨⟨t.text, List.mem_map_of_mem named, fun t' held same => ?_⟩, .bench (.unknownWorkload t.text),
          trivial, ?_⟩
        · exact unknown (WorkloadTag.text_injective same ▸ held)
        · rw [refused]
          rfl

/-! ## The workloads of a suite -/

/-- A suite is asked for something that it cannot do. -/
def SuiteRefused (m : Machine) (path : Option String) (only : List String) : Prop :=
  (∃ e, (Config.find fileSystem path).run m = .ok (.error e, m)) ∨
  (∃ config, (Config.find fileSystem path).run m = .ok (.ok config, m) ∧
    ∃ o ∈ Config.overridesOf config, o.tag ∉ Registry.builtin.tags) ∨
  ∃ s ∈ only, ∀ t ∈ Registry.builtin.tags, t.text ≠ s

theorem not_suiteRefused {only : List String} (found : (Config.find fileSystem path).run m = .ok (.ok config, m))
    (known : ∀ o ∈ Config.overridesOf config, o.tag ∈ Registry.builtin.tags)
    (named : ∀ s ∈ only, ∃ t ∈ Registry.builtin.tags, t.text = s) : ¬ SuiteRefused m path only := by
  rintro (⟨e, failed⟩ | ⟨config', found', o, written, unknown⟩ | ⟨s, mem, none⟩)
  · rw [found] at failed
    cases failed
  · rw [found] at found'
    obtain rfl := Except.ok.inj (Prod.mk.inj (Except.ok.inj found')).1
    exact unknown (known o written)
  · obtain ⟨t, held, same⟩ := named s mem
    exact none t held same

/-- The workloads that a suite runs, with the plans that it runs them by. -/
def selected (os : List PlanOverride) (only : List String) (quick : Bool) : List Workload :=
  let ws := chosen only (Workload.suite.map (Workload.asked os))
  if quick then ws.map (·.withPlan Host.quickPlan) else ws

/-- What is left of a suite when it has said what it runs. -/
def suiteFrom (ws : List Workload) (start : SuiteReport) (dir : Option String) : CommandM MachineM Unit := do
  let report ← host.runAll ws start
  host.printSummary report
  match dir with
  | some dir => host.keep report dir
  | none => pure ()

/-- The host information of a suite, where it is asked for. -/
def reportedInfo (config : Option Config) (m : Machine) : Option SystemInfo :=
  if config.all Config.captureSystemInfo then some m.info else none

/-- The report of a suite at its start. -/
def started (config : Option Config) (m : Machine) : SuiteReport := .start m.time (reportedInfo config m)

/-- The machine when a suite has said what it runs. -/
def announced (ws : List Workload) (quick : Bool) (m : Machine) : Machine :=
  { m with output := m.output ++ Lines.banner ws.length quick }

theorem undisturbed_announced (ws : List Workload) (quick : Bool) (m : Machine) : Undisturbed m (announced ws quick m) :=
  ⟨rfl, rfl, rfl⟩

theorem begin_run (m : Machine) (config : Option Config) (registry : Registry) (output : Option String) (quick : Bool) :
    let ws := if quick then registry.workloads.map (·.withPlan Host.quickPlan) else registry.workloads
    on (do
      host.printAll (Host.banner registry.size quick)
      let info ← if config.all Config.captureSystemInfo then some <$> host.systemInfo else pure none
      let start := SuiteReport.start (← host.now) info
      let workloads := if quick then registry.workloads.map (·.withPlan Host.quickPlan) else registry.workloads
      let report ← host.runAll workloads start
      host.printSummary report
      match output.or (config.map Config.reportDir) with
      | some dir => host.keep report dir
      | none => pure ()) m =
    (suiteFrom ws (started config m) (output.or (config.map Config.reportDir))).on (announced ws quick m) := by
  intro ws
  have size : registry.size = ws.length := by
    show registry.workloads.length = (if quick then registry.workloads.map (·.withPlan Host.quickPlan) else
      registry.workloads).length
    split
    · rw [List.length_map]
    · rfl
  rw [on_bind_ok (on_lift (run_printAll _ _)), size, Lines.banner_eq, started,
    reportedInfo]
  -- the answers of the host are known on a machine
  cases config.all Config.captureSystemInfo with
  | true => rfl
  | false => rfl

/-- **A suite is refused** before it does anything, or runs the workloads that are selected. -/
theorem suite_cases (m : Machine) (path : Option String) (only : List String) (output : Option String) (quick : Bool) :
    (SuiteRefused m path only ∧ ∃ e : CommandError, e.Refusal ∧
      (host.suite path only output quick).on m = .ok (.error e, m)) ∨
    ¬ SuiteRefused m path only ∧ ∃ config, (Config.find fileSystem path).run m = .ok (.ok config, m) ∧
      let ws := selected (Config.overridesOf config) only quick
      (host.suite path only output quick).on m =
        (suiteFrom ws (started config m) (output.or (config.map Config.reportDir))).on (announced ws quick m) := by
  obtain ⟨answer, found⟩ := (asks_find path).exists_run m
  cases answer with
  | error e =>
    exact .inl ⟨.inl ⟨e, found⟩, .bench e, refusal_of_find found, on_bind_error (plan_of_error found)⟩
  | ok config =>
    have accepted := accepted_of_find found
    have planned := plan_of_ok found
    by_cases known : ∀ o ∈ Config.overridesOf config, o.tag ∈ Registry.builtin.tags
    · have planned : (host.plan path).on m =
          .ok (.ok (config, Registry.builtin.replanned (Config.overridesOf config)), m) := by
        rw [planned, Registry.planned_of_known accepted known]
        rfl
      rcases choose_run (Registry.builtin.replanned (Config.overridesOf config)) only m with
        ⟨named, chose⟩ | ⟨unnamed, e, refusal, refused⟩
      · rw [Registry.tags_replanned] at named
        rw [Registry.workloads_replanned] at chose
        exact .inr ⟨not_suiteRefused found known named, config, found,
          (on_bind_ok planned).trans ((on_bind_ok chose).trans (begin_run ..))⟩
      · rw [Registry.tags_replanned] at unnamed
        exact .inl ⟨.inr (.inr unnamed), e, refusal, (on_bind_ok planned).trans (on_bind_error refused)⟩
    · push Not at known
      obtain ⟨o, written, unknown⟩ := known
      obtain ⟨tag, refused⟩ := Registry.planned_of_unknown accepted written unknown
      refine .inl ⟨.inr (.inl ⟨config, found, o, written, unknown⟩), .bench (.unknownWorkload tag), trivial,
        on_bind_error ?_⟩
      rw [planned, refused]
      rfl

/-! ## Failures on the way -/

theorem fails_runAll : ∀ (ws : List Workload) (report : SuiteReport), Fails (¬ ·.Refusal) (host.runAll ws report)
  | [], _ => fails_pure _
  | w :: ws, report => by
    refine (fails_mapError fun m e m' h => ?_).bind fun t => (fails_lift _).bind fun _ => fails_runAll ws _
    obtain ⟨-, ⟨o, -, judged⟩ | ⟨e', failed⟩⟩ := run_inv h
    · unfold verdict at judged
      split at judged
      · cases judged
      · obtain rfl := Except.error.inj judged
        exact id
    · obtain rfl := Except.error.inj failed
      exact id

theorem fails_keep (report : SuiteReport) (dir : String) : Fails (¬ ·.Refusal) (host.keep report dir) := by
  refine (fails_mapError fun _ _ _ _ => id).bind fun archive => (fails_lift _).bind fun found => ?_
  have saves : Fails (¬ ·.Refusal) (do
      let path ← CommandM.report (archive.save report)
      host.printAll ["", "Suite report saved to: " ++ path]) :=
    (fails_mapError fun _ _ _ _ => id).bind fun _ => fails_lift _
  match found with
  | .ok (some baseline) => exact (fails_lift _).bind fun _ => saves
  | .ok none => exact (fails_pure ()).bind fun _ => saves
  | .error e => exact (fails_lift _).bind fun _ => saves

theorem fails_suiteFrom (ws : List Workload) (start : SuiteReport) (dir : Option String) :
    Fails (¬ ·.Refusal) (suiteFrom ws start dir) := by
  refine (fails_runAll ws start).bind fun report => (fails_lift _).bind fun _ => ?_
  cases dir with
  | some dir => exact fails_keep _ _
  | none => exact fails_pure ()

/-! ## What a suite leaves -/

variable {info : Option SystemInfo} {ts : List Timing}

theorem Kept.of_same {m₀ : Machine} {dir : String} {made : FileTree} {found : Except ReportError (Option SuiteReport)}
    (h : Kept m m' dir info ts made found) (same : Undisturbed m₀ m) : Kept m₀ m' dir info ts made found where
  grows := by
    rw [← same.dir, ← same.files]
    exact h.grows
  latest := by
    have files : { m₀ with files := made }.files = { m with files := made }.files := rfl
    exact ((asks_latest dir).run_eq h.latest files same.dir.symm).2
  old := by
    rw [← same.files]
    exact h.old
  directory := by
    rw [← same.dir]
    exact h.directory
  written := by
    rw [← same.dir, ← same.time]
    exact h.written

/-- **What a suite leaves on disk**, and the lines that it ends with. -/
def Leaves (m m' : Machine) (dir : Option String) (info : Option SystemInfo) (ts : List Timing) (tail : List String) :
    Prop :=
  match dir with
  | none => m'.files = m.files ∧ tail = []
  | some dir => ∃ made found, Kept m m' dir info ts made found ∧
      tail = compared ts info found ++ ["", "Suite report saved to: " ++ Path.join dir (Lines.fileName m.time)]

theorem suiteFrom_success {ws : List Workload} (lasts : ∀ w ∈ ws, w.golden.lasts = true) {dir : Option String}
    {m₀ : Machine} (begun : Undisturbed m₀ m) (h : (suiteFrom ws (.start m₀.time info) dir).on m = .ok (.ok (), m')) :
    ∃ ts tail, List.Forall₂ TimingOf ws ts ∧
      m'.output = m.output ++ (ts.flatMap fun t => [Lines.timing t, ""]) ++ Lines.summary ts ++ tail ∧
      Leaves m₀ m' dir info ts tail := by
  unfold suiteFrom at h
  obtain ⟨report, m₁, ran, h⟩ := on_bind_success h
  obtain ⟨ts, timings, rfl, same, output⟩ := runAll_success ran
  have same := begun.trans same
  rw [on_bind_ok (on_lift (run_printSummary _ _))] at h
  cases dir with
  | none =>
    obtain ⟨-, rfl⟩ := Prod.mk.inj (Except.ok.inj h)
    refine ⟨ts, [], timings, ?_, same.files, rfl⟩
    rw [output, List.append_nil]
    rfl
  | some dir =>
    rw [← same.time] at h
    obtain ⟨made, found, kept, ending⟩ := keep_success (exists_readAs lasts timings) h
    refine ⟨ts, _, timings, ?_, made, found, kept.of_same ⟨same.files, same.dir, same.time⟩, rfl⟩
    have ending : m'.output = m₁.output ++ Lines.summary ts ++ compared ts info found ++
      ["", "Suite report saved to: " ++ Path.join dir (Lines.fileName m₁.time)] := ending
    rw [ending, output, same.time]
    simp only [List.append_assoc]

theorem tags_selected (os : List PlanOverride) (only : List String) (quick : Bool) :
    (selected os only quick).map (·.tag) = Registry.builtin.tags.filter fun t => only = [] ∨ t.text ∈ only := by
  have tags : (selected os only quick).map (·.tag) =
      (chosen only (Workload.suite.map (Workload.asked os))).map (·.tag) := by
    unfold selected
    cases quick with
    | false => rfl
    | true => exact List.map_map
  rw [tags, chosen, Registry.tags, List.filter_map, List.filter_map, List.map_map]
  rfl

theorem lasts_selected (os : List PlanOverride) (only : List String) (quick : Bool) :
    ∀ w ∈ selected os only quick, w.golden.lasts = true := by
  have lasts : ∀ w ∈ chosen only (Workload.suite.map (Workload.asked os)), w.golden.lasts = true := by
    intro w mem
    obtain ⟨w₀, built, rfl⟩ := List.mem_map.1 (List.mem_of_mem_filter mem)
    exact lasts_suite w₀ built
  cases quick with
  | false => exact lasts
  | true => exact List.forall_mem_map.2 lasts

theorem TimingOf.tags_eq {ws : List Workload} {ts : List Timing} (h : List.Forall₂ TimingOf ws ts) :
    ts.map (·.tag) = ws.map (·.tag) := by
  induction h with
  | nil => rfl
  | cons first _ ih => rw [List.map_cons, List.map_cons, first.tag_eq, ih]

/-- **The effect of a suite on files.**  It is refused just when the run plan cannot be read, overrides an unknown
workload, or a tag is named that no workload has; then the machine is as it was, and nothing has been run.  If it
succeeds, the selected workloads have been run in suite order, each once, and their timings are printed, one by one and
in a summary.  Where no output directory applies, the files are as they were.  Otherwise directories of the output path
are new, and one file in it is written, which is named for the time of the start and from which the timings are read
again; and the timings are compared with the latest report that was there before. -/
theorem suite_effect (m : Machine) (path : Option String) (only : List String) (output : Option String) (quick : Bool) :
    let answer := (host.perform path (.suite only output quick)).on m
    (SuiteRefused m path only ↔ ∃ e m', CommandError.Refusal e ∧ answer = .ok (.error e, m')) ∧
    (∀ e m', CommandError.Refusal e → answer = .ok (.error e, m') → m' = m) ∧
    ∀ m', answer = .ok (.ok (), m') → ∃ config ts tail,
      (Config.find fileSystem path).run m = .ok (.ok config, m) ∧
      List.Forall₂ TimingOf (selected (Config.overridesOf config) only quick) ts ∧
      ts.map (·.tag) = (Registry.builtin.tags.filter fun t => only = [] ∨ t.text ∈ only) ∧
      (ts.map (·.tag)).Nodup ∧
      m'.output = m.output ++ Lines.banner ts.length quick ++ (ts.flatMap fun t => [Lines.timing t, ""]) ++
        Lines.summary ts ++ tail ∧
      Leaves m m' (output.or (config.map Config.reportDir)) (reportedInfo config m) ts tail := by
  intro answer
  rcases suite_cases m path only output quick with
    ⟨refused, e, refusal, failed⟩ | ⟨accepted, config, found, begun⟩
  · have failed : answer = .ok (.error e, m) := failed
    refine ⟨⟨fun _ => ⟨e, m, refusal, failed⟩, fun _ => refused⟩, fun e' m' _ ended => ?_, fun m' ended => ?_⟩
    · rw [failed] at ended
      exact (Prod.mk.inj (Except.ok.inj ended)).2.symm
    · rw [failed] at ended
      cases (Prod.mk.inj (Except.ok.inj ended)).1
  · have begun : answer = _ := begun
    have sound : ∀ e m', CommandError.Refusal e → answer ≠ .ok (.error e, m') := by
      intro e m' refusal ended
      rw [begun] at ended
      exact fails_suiteFrom _ _ _ _ _ _ ended refusal
    refine ⟨⟨fun refused => absurd refused accepted, ?_⟩, fun e m' refusal ended => absurd ended (sound e m' refusal),
      fun m' ended => ?_⟩
    · rintro ⟨e, m', refusal, ended⟩
      exact absurd ended (sound e m' refusal)
    · rw [begun] at ended
      obtain ⟨ts, tail, timings, printed, leaves⟩ :=
        suiteFrom_success (lasts_selected _ _ _) (undisturbed_announced _ quick m) ended
      have tags := (TimingOf.tags_eq timings).trans (tags_selected _ _ _)
      refine ⟨config, ts, tail, found, timings, tags, ?_, ?_, leaves⟩
      · rw [tags]
        exact Registry.Sound.builtin.nodup_tags.filter _
      · rw [printed, ← timings.length_eq]
        rfl

/-- A machine with nothing on disk. -/
def emptyDesk : Machine := .fresh .empty [] id ⟨0, 0⟩ ⟨"desk", "Linux", none, "cpu", 1, 1000, 1⟩

/-- One workload is run, though it is named twice, and its report is written in a new directory; for a tag that no workload
has, nothing is. -/
theorem suite_effect_emptyDesk :
    let answer only := (host.perform none (.suite only (some "out") true)).on emptyDesk
    (∃ (m' : Machine) (ts : List Timing) (text : String), answer ["list", "list"] = .ok (.ok (), m') ∧
      ts.map (·.tag) = [Workload.list.tag] ∧ SuiteReport.Tells text ⟨0, 0⟩ (some emptyDesk.info) ts ∧
      m'.files.seen? ["out", "suite_1970-01-01T00-00-00.000Z.json"] = some (.file text.toUTF8)) ∧
    ∃ e, CommandError.Refusal e ∧ answer ["list", "nothing"] = .ok (.error e, emptyDesk) := by
  intro answer
  obtain ⟨-, -, effect⟩ := suite_effect emptyDesk none ["list", "list"] (some "out") true
  obtain ⟨refused, unchanged, -⟩ := suite_effect emptyDesk none ["list", "nothing"] (some "out") true
  have succeeds : ((answer ["list", "list"]).toOption.any fun r => r.1.isOk) = true := by decide +kernel
  constructor
  · rcases ended : answer ["list", "list"] with fault | ⟨e | _, m'⟩
    · rw [ended] at succeeds
      cases succeeds
    · rw [ended] at succeeds
      cases succeeds
    · obtain ⟨config, ts, tail, found, -, tags, -, -, made, latest, kept, -⟩ := effect m' ended
      obtain rfl : none = config := by
        have nothing : (Config.find fileSystem none).run emptyDesk = .ok (.ok none, emptyDesk) := by rfl
        rw [nothing] at found
        exact Except.ok.inj (Prod.mk.inj (Except.ok.inj found)).1
      obtain ⟨text, tells, written⟩ := kept.written
      refine ⟨m', ts, text, rfl, ?_, tells, ?_⟩
      · rw [tags]
        decide +kernel
      · rw [written]
        have place : placeOf emptyDesk.dir "out" ++ [Lines.fileName emptyDesk.time] =
          ["out", "suite_1970-01-01T00-00-00.000Z.json"] := by decide +kernel
        rw [place, if_pos rfl]
  · obtain ⟨e, m', refusal, ended⟩ := refused.1 (.inr (.inr ⟨"nothing", by simp, by decide +kernel⟩))
    rw [unchanged e m' refusal ended] at ended
    exact ⟨e, refusal, ended⟩

end Machine
end BenchSuite
