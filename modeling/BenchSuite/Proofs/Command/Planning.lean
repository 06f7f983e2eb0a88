import BenchSuite.Proofs.Machine.Commands
import BenchSuite.Proofs.Registry.Combining
/-!
# The run plan of a command

Whatever a command goes on to do, it first reads its run plan, and answers with the error of the file, with the first
override of an unknown workload, or with the built-in workloads under the overrides (`planned_of_known`, `plan_of_ok`).
-/
namespace BenchSuite

/-- The overrides of the run plan of a command, if it has one. -/
def Config.overridesOf (config : Option Config) : List PlanOverride := (config.map Config.overrides).getD []

namespace Machine

variable {m m' : Machine} {file : String} {path : Option String} {config : Option Config}

/-- What loading a run plan comes to. -/
theorem load_cases {answer : Except BenchError Config} (h : (Config.load fileSystem file).run m = .ok (answer, m')) :
    answer = .error (.configNotFound file) ∨ (∃ cause, answer = .error (.io "reading config file" cause)) ∨
      ∃ text, answer = Config.ofText text := by
  obtain ⟨there, has⟩ := (asks_has file).exists_run m
  obtain ⟨text, read⟩ := (asks_readText file).exists_run m
  unfold Config.load at h
  rw [run_bind_ok has] at h
  cases there with
  | false => exact .inl (Prod.mk.inj (Except.ok.inj h)).1.symm
  | true =>
    rw [if_pos rfl, run_bind_ok read] at h
    have same := (Prod.mk.inj (Except.ok.inj h)).1
    cases text with
    | error e => exact .inr (.inl ⟨_, same.symm⟩)
    | ok text => exact .inr (.inr ⟨text, same.symm⟩)

theorem find_some (file : String) (m : Machine) : ∃ answer, (Config.load fileSystem file).run m = .ok (answer, m) ∧
    (Config.find fileSystem (some file)).run m = .ok (answer.map some, m) := by
  obtain ⟨answer, loaded⟩ := (asks_load file).exists_run m
  exact ⟨answer, loaded, run_bind_ok loaded⟩

/-- **Where a command finds its run plan**: in a file, or nowhere. -/
theorem find_cases {answer : Except BenchError (Option Config)}
    (h : (Config.find fileSystem path).run m = .ok (answer, m')) : answer = .ok none ∨
      ∃ file loaded, (Config.load fileSystem file).run m = .ok (loaded, m) ∧ answer = loaded.map some := by
  have named : ∀ file, (Config.find fileSystem (some file)).run m = .ok (answer, m') →
      ∃ file loaded, (Config.load fileSystem file).run m = .ok (loaded, m) ∧ answer = loaded.map some := by
    intro file h
    obtain ⟨loaded, run, found⟩ := find_some file m
    rw [found] at h
    exact ⟨file, loaded, run, (Prod.mk.inj (Except.ok.inj h)).1.symm⟩
  cases path with
  | some file => exact .inr (named file h)
  | none =>
    obtain ⟨there, has⟩ := (asks_has defaultConfigPath).exists_run m
    unfold Config.find at h
    dsimp only at h
    rw [run_bind_ok has] at h
    cases there with
    | false => exact .inl (Prod.mk.inj (Except.ok.inj h)).1.symm
    | true => exact .inr (named _ h)

theorem accepted_of_load {config : Config} (h : (Config.load fileSystem file).run m = .ok (.ok config, m')) :
    config.Accepted := by
  rcases load_cases h with missing | ⟨cause, unreadable⟩ | ⟨text, read⟩
  · cases missing
  · cases unreadable
  · exact ⟨text, read.symm⟩

theorem accepted_of_find (h : (Config.find fileSystem path).run m = .ok (.ok config, m')) :
    ∀ c ∈ config, c.Accepted := by
  rintro c rfl
  rcases find_cases h with none | ⟨file, loaded, run, same⟩
  · cases none
  · obtain ⟨c', rfl, some⟩ := except_map_ok same.symm
    obtain rfl := Option.some.inj some
    exact accepted_of_load run

end Machine

namespace Registry

theorem workloads_replanned (r : Registry) (os : List PlanOverride) :
    (r.replanned os).workloads = r.workloads.map (Workload.asked os) := by
  simp [replanned, Workload.replanned_eq]

variable {config : Option Config} (accepted : ∀ c ∈ config, c.Accepted)
include accepted

/-- **The workloads under a run plan** that names built-in ones alone. -/
theorem planned_of_known (known : ∀ o ∈ Config.overridesOf config, o.tag ∈ builtin.tags) :
    planned config = .ok (builtin.replanned (Config.overridesOf config)) := by
  cases config with
  | none =>
    show Except.ok builtin = .ok (builtin.replanned [])
    rw [replanned_nil]
  | some config =>
    have plan := accepted config rfl
    have applied := apply_held .builtin plan.distinct plan.bounded known
    simp only [planned, applied]
    rfl

theorem planned_of_unknown {o : PlanOverride} (written : o ∈ Config.overridesOf config) (unknown : o.tag ∉ builtin.tags) :
    ∃ tag, planned config = .error (.unknownWorkload tag) := by
  cases config with
  | none => cases written
  | some config =>
    have plan := accepted config rfl
    obtain ⟨e, r', refused⟩ := (apply_refused_iff .builtin plan.distinct plan.bounded).2 ⟨o, written, unknown⟩
    obtain ⟨_, o', _, _, _, _, rfl⟩ := apply_eq_error .builtin plan.distinct plan.bounded refused
    exact ⟨o'.tag.text, by simp only [planned, refused]⟩

end Registry

namespace Machine

open CommandM

variable {m : Machine} {path : Option String} {config : Option Config}

theorem plan_of_error {e : BenchError} (found : (Config.find fileSystem path).run m = .ok (.error e, m)) :
    (host.plan path).on m = .ok (.error (.bench e), m) := on_bind_error (on_bench found)

/-- **The first part of a command** that has read its run plan: the plan and the workloads under it, or why not. -/
theorem plan_of_ok (found : (Config.find fileSystem path).run m = .ok (.ok config, m)) :
    (host.plan path).on m = .ok (((Registry.planned config).map (config, ·)).mapError .bench, m) := by
  refine (on_bind_ok (on_bench found)).trans ?_
  cases Registry.planned config <;> rfl

end Machine
end BenchSuite
