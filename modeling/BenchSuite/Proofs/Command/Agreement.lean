import BenchSuite.Proofs.Archive.Saving
import BenchSuite.Proofs.Command.Lines
import BenchSuite.Proofs.Command.Planning
import BenchSuite.Proofs.Machine.Running
/-!
# Commands agree on the plans

Listing the workloads, checking a run-plan file and running a workload each read the plans on their own.  They come to
the same ones: a file that is listed is one that is valid, and the counts that are listed, that are shown for an override
and that are executed are those of `Workload.asked` (`commands_agree`).
-/
namespace BenchSuite

open PlanOverride (warmupFor cyclesFor)

/-! ## Plans with flags -/

/-- A flag of the command line holds a count that no plan can have. -/
def OutOfRange (warmup cycles : Option UInt32) : Prop :=
  (∃ n ∈ warmup, maxRepetitions < n) ∨ ∃ n ∈ cycles, n = 0 ∨ maxRepetitions < n

namespace RunPlan

theorem exists_override_iff {plan : RunPlan} (bounded : plan.warmup ≤ maxRepetitions) (warmup cycles : Option UInt32) :
    (∃ p, plan.override warmup cycles = .ok p) ↔ ¬ OutOfRange warmup cycles := by
  have counted : (∃ p, plan.override warmup cycles = .ok p) ↔ warmup.getD plan.warmup ≤ maxRepetitions ∧
      1 ≤ cycles.getD plan.cycles.count ∧ cycles.getD plan.cycles.count ≤ maxRepetitions := by
    rw [← Cycles.ofCount_isOk_iff]
    constructor
    · rintro ⟨p, h⟩
      obtain ⟨le, -, count⟩ := ofCounts_eq_ok.1 h
      exact ⟨le, p.cycles, Cycles.ofCount_eq_ok.2 count⟩
    · rintro ⟨le, c, h⟩
      exact ⟨⟨_, c⟩, ofCounts_eq_ok.2 ⟨le, rfl, Cycles.ofCount_eq_ok.1 h⟩⟩
  rw [counted, OutOfRange, not_or]
  refine and_congr ?_ ?_
  · cases warmup with
    | none => simpa using bounded
    | some n => simp
  · cases cycles with
    | none => simpa using ⟨plan.cycles.pos, plan.cycles.le_max⟩
    | some n =>
      have pos : 1 ≤ n ↔ n ≠ 0 := by
        rw [UInt32.le_iff_toNat_le, ne_eq, ← UInt32.toNat_inj]
        exact Nat.one_le_iff_ne_zero
      simp [pos]

end RunPlan

theorem Registry.select_replanned (os : List PlanOverride) (r : Registry) (selector : String) :
    (r.replanned os).select selector = (r.select selector).map (Workload.asked os) := by
  have mapped := r.workloads_replanned os
  unfold select
  cases selectorIndex? selector with
  | some i =>
    simp only [byIndex, mapped, List.getElem?_map]
    cases r.workloads[i]? <;> rfl
  | none =>
    simp only [get, mapped, List.find?_map]
    have tags : (fun w : Workload => w.tag.text == selector) ∘ Workload.asked os = fun w => w.tag.text == selector := rfl
    rw [tags]
    cases r.workloads.find? (·.tag.text == selector) <;> rfl

theorem Registry.mem_of_select {r : Registry} {selector : String} {w : Workload} (h : r.select selector = .ok w) :
    w ∈ r.workloads := by
  unfold select at h
  split at h
  · exact List.mem_of_getElem? (byIndex_eq_ok.1 h)
  · exact (get_eq_ok h).1

theorem Workload.warmup_asked_le {os : List PlanOverride} (bounded : ∀ o ∈ os, o.Bounded) {w : Workload}
    (h : w.plan.warmup ≤ maxRepetitions) : (w.asked os).plan.warmup ≤ maxRepetitions := by
  show (warmupFor os w.tag).getD w.plan.warmup ≤ maxRepetitions
  cases given : warmupFor os w.tag with
  | none => exact h
  | some n => exact PlanOverride.warmupFor_le bounded n given

namespace Machine

open CommandM

variable {m m' : Machine} {file : String} {path : Option String} {config : Option Config} {registry : Registry}

/-! ## The list -/

/-- What is printed about the workloads of a registry. -/
def listing (registry : Registry) : List String :=
  Lines.list registry.workloads ++ ["", "Total: " ++ toString registry.workloads.length ++ " workload(s)"]

theorem list_run (planned : (host.plan path).on m = .ok (.ok (config, registry), m)) :
    (host.list path).on m = .ok (.ok (), { m with output := m.output ++ listing registry }) := by
  refine (on_bind_ok planned).trans ?_
  refine (on_bind_ok (on_lift (run_printAll _ _))).trans ?_
  refine (on_bind_ok (on_lift (run_printAll _ _))).trans ?_
  refine (on_lift (run_printAll _ _)).trans ?_
  simp only [listing, Lines.list_eq, List.append_assoc, List.singleton_append]
  rfl

/-! ## The check of a file -/

/-- The line about an override, from the workload under it. -/
def planLine (w : Workload) : String :=
  "  - " ++ w.tag.text ++ " (warm-up: " ++ toString w.plan.warmup.toNat ++ ", cycles: "
    ++ toString w.plan.cycles.count.toNat ++ ")"

theorem check_run {answer : Except BenchError Config} (loaded : (Config.load fileSystem file).run m = .ok (answer, m)) :
    (host.check file).run m =
      .ok (answer >>= fun config => (Registry.planned (some config)).map fun r => (config, r), m) := by
  refine (run_bind_ok loaded).trans ?_
  cases answer <;> rfl

theorem overrideLine_eq (os : List PlanOverride) {o : PlanOverride} (known : o.tag ∈ Registry.builtin.tags) :
    ∃ w ∈ Registry.builtin.workloads, w.tag = o.tag ∧
      Host.overrideLine (Registry.builtin.replanned os) o = .ok (planLine (w.asked os)) := by
  obtain ⟨w, held, named⟩ := Registry.mem_tags.1 known
  have once : (Registry.builtin.replanned os).tags.Nodup := by
    rw [Registry.tags_replanned]
    exact Registry.Sound.builtin.nodup_tags
  have replanned : w.asked os ∈ (Registry.builtin.replanned os).workloads := by
    rw [← Workload.replanned_eq]
    exact List.mem_map_of_mem held
  have found := Registry.get_tag once replanned
  have same : (w.asked os).tag.text = o.tag.text := congrArg _ named
  rw [same] at found
  refine ⟨w, held, named, ?_⟩
  rw [Host.overrideLine, found, planLine, same]
  rfl

/-- The lines about overrides are about the workloads that they name, in their order. -/
theorem overrideLines_run (os : List PlanOverride) : ∀ {os' : List PlanOverride} (m : Machine),
    (∀ o ∈ os', o.tag ∈ Registry.builtin.tags) →
    ∃ named : List Workload, named.map (·.tag) = os'.map (·.tag) ∧ (∀ w ∈ named, w ∈ Registry.builtin.workloads) ∧
      on (os'.forM fun o => do
        host.print (← bench (return Host.overrideLine (Registry.builtin.replanned os) o))) m =
          .ok (.ok (), { m with output := m.output ++ named.map fun w => planLine (w.asked os) })
  | [], m, _ => ⟨[], rfl, by simp, by rw [List.map_nil, List.append_nil]; rfl⟩
  | o :: os', m, known => by
    obtain ⟨known₁, known⟩ := List.forall_mem_cons.1 known
    obtain ⟨w, held, same, line⟩ := overrideLine_eq os known₁
    obtain ⟨named, tags, builtin, rest⟩ :=
      overrideLines_run os { m with output := m.output ++ [planLine (w.asked os)] } known
    refine ⟨w :: named, ?_, List.forall_mem_cons.2 ⟨held, builtin⟩, ?_⟩
    · rw [List.map_cons, List.map_cons, tags, same]
    · have first : on (do host.print (← bench (return Host.overrideLine (Registry.builtin.replanned os) o))) m =
          .ok (.ok (), { m with output := m.output ++ [planLine (w.asked os)] }) := by
        rw [line]
        rfl
      refine (on_bind_ok first).trans (rest.trans ?_)
      simp only [List.append_assoc, List.map_cons, List.singleton_append]

def validatingRecord (file : String) : LogRecord := ⟨.info, "Validating run plan", [("file", .text file)]⟩

theorem validate_of_error {e : BenchError} (refused : ∀ m' : Machine, m'.files = m.files → m'.dir = m.dir →
    (host.check file).run m' = .ok (.error e, m')) :
    (host.validate file).on m = .ok (.error (.invalidFile e), m.tell [validatingRecord file]) := by
  have noted : on (liftM (host.log (validatingRecord file))) m = .ok (.ok (), m.tell [validatingRecord file]) := rfl
  refine (on_bind_ok noted).trans ?_
  exact on_bind_ok (on_lift (refused (m.tell [validatingRecord file]) rfl rfl))

theorem validate_of_ok {config : Config} (checked : ∀ m' : Machine, m'.files = m.files → m'.dir = m.dir →
    (host.check file).run m' = .ok (.ok (config, Registry.builtin.replanned config.overrides), m'))
    (known : ∀ o ∈ config.overrides, o.tag ∈ Registry.builtin.tags) :
    ∃ named : List Workload, named.map (·.tag) = config.overrides.map (·.tag) ∧
      (∀ w ∈ named, w ∈ Registry.builtin.workloads) ∧
      (host.validate file).on m = .ok (.ok (), { m.tell [validatingRecord file] with
        output := m.output ++ Host.settings config ++ named.map fun w => planLine (w.asked config.overrides) }) := by
  have noted : on (liftM (host.log (validatingRecord file))) m = .ok (.ok (), m.tell [validatingRecord file]) := rfl
  obtain ⟨named, tags, builtin, lines⟩ := overrideLines_run config.overrides
    { m.tell [validatingRecord file] with output := m.output ++ Host.settings config } known
  refine ⟨named, tags, builtin, ?_⟩
  refine (on_bind_ok noted).trans ?_
  refine (on_bind_ok (on_lift (checked (m.tell [validatingRecord file]) rfl rfl))).trans ?_
  exact (on_bind_ok (on_lift (run_printAll _ _))).trans lines

/-! ## The run of a workload -/

def runningRecord (w : Workload) : LogRecord := ⟨.info, "Running workload", [("workload", .text w.tag.text)]⟩

/-- **A workload is executed**: the answer of a command is what a run of the workload under its plan comes to. -/
def Executes (w : Workload) (m : Machine) (answer : Checked (Except CommandError Unit × Machine)) : Prop :=
  match w.kernel.run.result with
  | .error fault => answer = .error fault
  | .ok (.error e) => ∃ m', answer = .ok (.error (.bench (.kernel e)), m') ∧ m.Ran m'
  | .ok (.ok o) =>
    let after := { m.tell (told w o m) with reads := m.reads + 2 }
    answer = if w.accepts o then .ok (.ok (), { after with output := m.output ++ [Lines.timing (timing w o m.nextMs)] })
      else .ok (.error (.bench (.verification ⟨w.tag.text, o.text⟩)), after)

/-- A run of a workload, and its timing printed. -/
def execution (w : Workload) : CommandM MachineM Unit := do
  let t ← bench (host.run w)
  host.print t.text

theorem executes_execution (w : Workload) (m : Machine) : Executes w m ((execution w).on m) := by
  unfold Executes
  split
  · rename_i fault failed
    refine on_bind_fault (run_bind_fault (run_of_fault w failed m))
  · rename_i e failed
    obtain ⟨m', run, ran⟩ := run_of_error w failed m
    exact ⟨m', on_bind_error (on_bench run), ran⟩
  · rename_i o outcome
    have run := on_bench (run_of_outcome outcome m)
    dsimp only
    by_cases accepted : w.accepts o = true
    · rw [verdict, if_pos accepted] at run
      rw [if_pos accepted]
      exact (on_bind_ok run).trans rfl
    · rw [verdict, if_neg accepted] at run
      rw [if_neg accepted]
      exact on_bind_error run

theorem Executes.records_lt {w : Workload} {answer : Checked (Except CommandError Unit × Machine)} (h : Executes w m answer)
    {a : Except CommandError Unit} (ended : answer = .ok (a, m')) : m.records.length < m'.records.length := by
  subst ended
  unfold Executes at h
  split at h
  · cases h
  · obtain ⟨m₁, same, reads, records, some, rfl⟩ := h
    obtain ⟨-, rfl⟩ := Prod.mk.inj (Except.ok.inj same)
    exact length_lt_tell some m
  · rename_i o _
    have more := length_lt_tell (List.cons_ne_nil _ _ : told w o m ≠ []) m
    dsimp only at h
    split at h
    · obtain ⟨-, rfl⟩ := Prod.mk.inj (Except.ok.inj h)
      exact more
    · obtain ⟨-, rfl⟩ := Prod.mk.inj (Except.ok.inj h)
      exact more

theorem runOne_run {selector : String} {w : Workload} (planned : (host.plan path).on m = .ok (.ok (config, registry), m))
    (selected : registry.select selector = .ok w) (warmup cycles : Option UInt32) :
    match w.plan.override warmup cycles with
    | .error e => (host.runOne path selector warmup cycles).on m = .ok (.error (.option e), m)
    | .ok p => Executes (w.withPlan p) (m.tell [runningRecord w]) ((host.runOne path selector warmup cycles).on m) := by
  have chosen : on (bench (return registry.select selector)) m = .ok (.ok w, m) := by
    rw [selected]
    rfl
  have begun : (host.runOne path selector warmup cycles).on m = on (do
      let plan ← option (w.plan.override warmup cycles)
      host.log (runningRecord w)
      execution (w.withPlan plan)) m := (on_bind_ok planned).trans (on_bind_ok chosen)
  rw [begun]
  cases w.plan.override warmup cycles with
  | error e => exact on_bind_error (on_option (.error e) m)
  | ok p =>
    have noted : on (liftM (host.log (runningRecord w))) m = .ok (.ok (), m.tell [runningRecord w]) := rfl
    dsimp only
    rw [on_bind_ok (on_option (.ok p) m), on_bind_ok noted]
    exact executes_execution _ _

/-- **A run with flags** takes each count from its flag if it is given, and fails at once just when one is out of
range. -/
theorem runOne_flags {selector : String} {w : Workload} (planned : (host.plan path).on m = .ok (.ok (config, registry), m))
    (selected : registry.select selector = .ok w) (bounded : w.plan.warmup ≤ maxRepetitions)
    (warmup cycles : Option UInt32) :
    let runs := (host.runOne path selector warmup cycles).on m
    ((∃ e, runs = .ok (.error e, m)) ↔ OutOfRange warmup cycles) ∧
    (¬ OutOfRange warmup cycles → ∃ p : RunPlan, p.warmup = warmup.getD w.plan.warmup ∧
      p.cycles.count = cycles.getD w.plan.cycles.count ∧ Executes (w.withPlan p) (m.tell [runningRecord w]) runs) := by
  intro runs
  have accepted := RunPlan.exists_override_iff bounded warmup cycles
  have run := runOne_run planned selected warmup cycles
  cases counted : w.plan.override warmup cycles with
  | error e =>
    rw [counted] at run accepted
    have out : OutOfRange warmup cycles := by
      by_contra range
      obtain ⟨p, h⟩ := accepted.2 range
      cases h
    exact ⟨⟨fun _ => out, fun _ => ⟨_, run⟩⟩, fun range => absurd out range⟩
  | ok p =>
    rw [counted] at run
    obtain ⟨-, warm, count⟩ := RunPlan.ofCounts_eq_ok.1 counted
    have range : ¬ OutOfRange warmup cycles := accepted.1 ⟨p, counted⟩
    refine ⟨⟨?_, fun out => absurd out range⟩, fun _ => ⟨p, warm, count, run⟩⟩
    rintro ⟨e, failed⟩
    have first := length_lt_tell (List.cons_ne_nil (runningRecord w) []) m
    have more := run.records_lt failed
    omega

/-! ## One run plan for all -/

/-- A file holds a run plan for built-in workloads alone. -/
def HoldsPlan (m : Machine) (file : String) (config : Config) : Prop :=
  (Config.load fileSystem file).run m = .ok (.ok config, m) ∧ ∀ o ∈ config.overrides, o.tag ∈ Registry.builtin.tags

namespace HoldsPlan

variable {config : Config} (h : HoldsPlan m file config)
include h

theorem accepted : config.Accepted := accepted_of_load h.1

theorem planned : Registry.planned (some config) = .ok (Registry.builtin.replanned config.overrides) := by
  have accepted : ∀ c ∈ some config, c.Accepted := by
    rintro c ⟨⟩
    exact h.accepted
  exact Registry.planned_of_known accepted h.2

theorem plan_run : (host.plan (some file)).on m =
    .ok (.ok (some config, Registry.builtin.replanned config.overrides), m) := by
  obtain ⟨answer, loaded, found⟩ := find_some file m
  rw [h.1] at loaded
  obtain rfl := (Prod.mk.inj (Except.ok.inj loaded)).1
  rw [plan_of_ok found, h.planned]
  rfl

theorem check_run (files : m'.files = m.files) (dir : m'.dir = m.dir) :
    (host.check file).run m' = .ok (.ok (config, Registry.builtin.replanned config.overrides), m') := by
  refine (Machine.check_run ((asks_load file).run_eq h.1 files dir).2).trans ?_
  show Except.ok ((Registry.planned (some config)).map (config, ·), m') = _
  rw [h.planned]
  rfl

end HoldsPlan

/-- A file that holds no such plan is refused by every command, and for one reason. -/
theorem holdsPlan_or_refused (m : Machine) (file : String) : (∃ config, HoldsPlan m file config) ∨
    ∃ e, (host.plan (some file)).on m = .ok (.error (.bench e), m) ∧
      ∀ m' : Machine, m'.files = m.files → m'.dir = m.dir → (host.check file).run m' = .ok (.error e, m') := by
  obtain ⟨answer, loaded, found⟩ := find_some file m
  have again : ∀ m' : Machine, m'.files = m.files → m'.dir = m.dir →
      (Config.load fileSystem file).run m' = .ok (answer, m') :=
    fun m' files dir => ((asks_load file).run_eq loaded files dir).2
  cases answer with
  | error e => exact .inr ⟨e, plan_of_error found, fun m' files dir => check_run (again m' files dir)⟩
  | ok config =>
    by_cases known : ∀ o ∈ config.overrides, o.tag ∈ Registry.builtin.tags
    · exact .inl ⟨config, loaded, known⟩
    · push Not at known
      obtain ⟨o, written, unknown⟩ := known
      have accepted : ∀ c ∈ some config, c.Accepted := by
        rintro c ⟨⟩
        exact accepted_of_load loaded
      obtain ⟨tag, refused⟩ := Registry.planned_of_unknown accepted written unknown
      refine .inr ⟨.unknownWorkload tag, ?_, fun m' files dir => ?_⟩
      · rw [plan_of_ok found, refused]
        rfl
      · refine (check_run (again m' files dir)).trans ?_
        show Except.ok ((Registry.planned (some config)).map (config, ·), m') = _
        rw [refused]
        rfl

theorem lists_iff : (∃ m', (host.list (some file)).on m = .ok (.ok (), m')) ↔ ∃ config, HoldsPlan m file config := by
  constructor
  · rintro ⟨m', listed⟩
    rcases holdsPlan_or_refused m file with held | ⟨e, refused, -⟩
    · exact held
    · have failed : (host.list (some file)).on m = .ok (.error (.bench e), m) := on_bind_error refused
      rw [failed] at listed
      cases listed
  · rintro ⟨config, held⟩
    exact ⟨_, list_run held.plan_run⟩

theorem validates_iff : (∃ m', (host.validate file).on m = .ok (.ok (), m')) ↔ ∃ config, HoldsPlan m file config := by
  constructor
  · rintro ⟨m', valid⟩
    rcases holdsPlan_or_refused m file with held | ⟨e, -, refused⟩
    · exact held
    · rw [validate_of_error refused] at valid
      cases valid
  · rintro ⟨config, held⟩
    obtain ⟨named, -, -, valid⟩ := validate_of_ok (fun _ files dir => held.check_run files dir) held.2
    exact ⟨_, valid⟩

/-- **Commands agree on the plans.**  A file is valid just when it can be listed, and that is when it is read as a run
plan and every override names a built-in workload.  Then the counts that are listed for a workload, those that are shown
for an override of it, and those that it is run with are the same.  Flags take the place of the counts that they give,
each on its own; and a run with flags that are out of range, and only such a run, fails without anything being run. -/
theorem commands_agree (m : Machine) (file : String) :
    let lists := (host.perform (some file) .list).on m
    (∀ path, (∃ m', (host.perform path (.validate file)).on m = .ok (.ok (), m')) ↔ ∃ m', lists = .ok (.ok (), m')) ∧
    ((∃ m', lists = .ok (.ok (), m')) ↔ ∃ config, HoldsPlan m file config) ∧
    ∀ config, HoldsPlan m file config →
      let os := config.overrides
      lists = .ok (.ok (), { m with output := m.output ++ listing ⟨Workload.suite.map (Workload.asked os)⟩ }) ∧
      (∀ path, ∃ named : List Workload, named.map (·.tag) = os.map (·.tag) ∧ (∀ w ∈ named, w ∈ Workload.suite) ∧
        (host.perform path (.validate file)).on m = .ok (.ok (), { m.tell [validatingRecord file] with
          output := m.output ++ Host.settings config ++ named.map fun w => planLine (w.asked os) })) ∧
      ∀ selector w, Registry.builtin.select selector = .ok w →
        Executes (w.asked os) (m.tell [runningRecord w]) ((host.perform (some file) (.run selector none none)).on m) ∧
        ∀ warmup cycles,
          let runs := (host.perform (some file) (.run selector warmup cycles)).on m
          ((∃ e, runs = .ok (.error e, m)) ↔ OutOfRange warmup cycles) ∧
          (¬ OutOfRange warmup cycles → ∃ p : RunPlan,
            p.warmup = warmup.getD ((warmupFor os w.tag).getD w.plan.warmup) ∧
            p.cycles.count = cycles.getD ((cyclesFor os w.tag).getD w.plan.cycles).count ∧
            Executes (w.withPlan p) (m.tell [runningRecord w]) runs) := by
  refine ⟨fun path => validates_iff.trans lists_iff.symm, lists_iff, fun config held => ?_⟩
  intro os
  have listed : (Registry.builtin.replanned os).workloads = Workload.suite.map (Workload.asked os) :=
    Registry.builtin.workloads_replanned os
  refine ⟨?_, fun path => validate_of_ok (fun _ files dir => held.check_run files dir) held.2, fun selector w resolved => ?_⟩
  · rw [← listed]
    exact list_run held.plan_run
  · have selected : (Registry.builtin.replanned os).select selector = .ok (w.asked os) := by
      rw [Registry.select_replanned, resolved]
      rfl
    have bounded := Workload.warmup_asked_le held.accepted.bounded
      (Registry.Sound.builtin.warmup_le w (Registry.mem_of_select resolved))
    refine ⟨?_, fun warmup cycles => runOne_flags held.plan_run selected bounded warmup cycles⟩
    have kept : (w.asked os).plan.override none none = .ok (w.asked os).plan :=
      RunPlan.ofCounts_eq_ok.2 ⟨bounded, rfl, rfl⟩
    have run := runOne_run held.plan_run selected none none
    rwa [kept] at run

/-- A machine with a run plan for one workload. -/
def plannedDesk : Machine :=
  .fresh (.directory [("plan.yaml", .file "workloads: [{tag: list, cycles: 5}]".toUTF8)]) [] id ⟨0, 0⟩
    ⟨"desk", "Linux", none, "cpu", 1, 1000, 1⟩

/-- The run plan on it. -/
def fiveCycles : Config := ⟨defaultReportDir, true, [⟨Workload.list.tag, none, some ⟨5, by decide, by decide⟩⟩]⟩

theorem holdsPlan_plannedDesk : HoldsPlan plannedDesk "plan.yaml" fiveCycles := by
  have has : (fileSystem.has "plan.yaml").run plannedDesk = .ok (true, plannedDesk) := by rfl
  have read : (fileSystem.read "plan.yaml").run plannedDesk =
      .ok (.ok "workloads: [{tag: list, cycles: 5}]".toUTF8, plannedDesk) := by rfl
  have text : Config.ofText "workloads: [{tag: list, cycles: 5}]" = .ok fiveCycles := by decide +kernel
  refine ⟨?_, by decide +kernel⟩
  refine (run_bind_ok has).trans ((run_bind_ok (run_bind_ok read)).trans ?_)
  rw [Archive.fromUTF8?_toUTF8]
  dsimp only
  rw [text]
  rfl

/-- The run plan is valid and listed; the workload it names is run five times under the clock, or as flags say, and not at
all with a flag that is out of range. -/
theorem commands_agree_plannedDesk :
    let runs warmup cycles := (host.perform (some "plan.yaml") (.run "6" warmup cycles)).on plannedDesk
    (∃ m', (host.perform none (.validate "plan.yaml")).on plannedDesk = .ok (.ok (), m')) ∧
    (∃ m', (host.perform (some "plan.yaml") .list).on plannedDesk = .ok (.ok (), m')) ∧
    Executes (Workload.list.withPlan ⟨1, ⟨5, by decide, by decide⟩⟩) (plannedDesk.tell [runningRecord .list])
      (runs none none) ∧
    (∃ p : RunPlan, p.warmup = 7 ∧ p.cycles.count = 5 ∧
      Executes (Workload.list.withPlan p) (plannedDesk.tell [runningRecord .list]) (runs (some 7) none)) ∧
    ∃ e, runs none (some 0) = .ok (.error e, plannedDesk) := by
  intro runs
  obtain ⟨valid, listed, same⟩ := commands_agree plannedDesk "plan.yaml"
  obtain ⟨-, -, runs⟩ := same fiveCycles holdsPlan_plannedDesk
  have resolved : Registry.builtin.select "6" = .ok Workload.list := by rfl
  obtain ⟨plain, flags⟩ := runs "6" Workload.list resolved
  have lists := listed.2 ⟨_, holdsPlan_plannedDesk⟩
  refine ⟨(valid none).2 lists, lists, plain, ?_, ?_⟩
  · exact (flags (some 7) none).2 (by simp [OutOfRange]; decide)
  · exact (flags none (some 0)).1.2 (.inr ⟨0, rfl, .inl rfl⟩)

end Machine
end BenchSuite
