import Mathlib.Data.List.Induction
import BenchSuite.Proofs.Config.Accepted
/-!
# The first fault of a run-plan file

What was written is accepted exactly if its directory has a name, each entry is valid in itself and no tag is written
twice, and it is refused for the first thing that is wrong with it (`check_first_fault`).  An entry is looked at in
itself before it is compared with those before it, so a fault of its own hides that it is a repetition.
-/
namespace BenchSuite

namespace DraftEntry

/-- A text that may be a tag. -/
def TagText (s : String) : Prop :=
  s ≠ "" ∧ s.utf8ByteSize ≤ maxTagLength ∧ ∀ c ∈ s.toList, isTagChar c = true

/-- What an entry must be in itself. -/
structure Valid (e : DraftEntry) : Prop where
  tag : TagText e.tag
  warmup : ∀ n ∈ e.warmup, n ≤ maxRepetitions
  cycles : ∀ n ∈ e.cycles, 1 ≤ n ∧ n ≤ maxRepetitions

/-- **The fault of an entry in itself**, as field, value and reason: a fault of the tag comes before one of the
warm-up count, and this before one of the cycles. -/
inductive Fault (e : DraftEntry) : String → String → String → Prop where
  | emptyTag (h : e.tag = "") : Fault e "tag" e.tag "Workload tag cannot be empty"
  | longTag (h : maxTagLength < e.tag.utf8ByteSize) : Fault e "tag" e.tag
      ("Workload tag too long: " ++ toString e.tag.utf8ByteSize ++ " chars (max " ++ toString maxTagLength ++ ")")
  | tagChar (ne : e.tag ≠ "") (short : e.tag.utf8ByteSize ≤ maxTagLength)
      (h : ∃ c ∈ e.tag.toList, isTagChar c = false) :
      Fault e "tag" e.tag "Workload tag must contain only lowercase alphanumerics, hyphens, and underscores"
  | warmup {n : UInt32} (tag : TagText e.tag) (given : e.warmup = some n) (h : maxRepetitions < n) :
      Fault e "warmup" (toString n.toNat)
        ("Warm-up iterations for '" ++ e.tag ++ "' must not exceed " ++ toString maxRepetitions.toNat)
  | noCycles (tag : TagText e.tag) (warmup : ∀ n ∈ e.warmup, n ≤ maxRepetitions) (given : e.cycles = some 0) :
      Fault e "cycles" "0" "Measured cycles must be at least 1"
  | manyCycles {n : UInt32} (tag : TagText e.tag) (warmup : ∀ n ∈ e.warmup, n ≤ maxRepetitions)
      (given : e.cycles = some n) (h : maxRepetitions < n) :
      Fault e "cycles" (toString n.toNat) ("Measured cycles must not exceed " ++ toString maxRepetitions.toNat)

variable {e : DraftEntry}

/-- An entry is valid, or else it has a fault. -/
theorem valid_or_fault (e : DraftEntry) : e.Valid ∨ ∃ field value reason, e.Fault field value reason := by
  by_cases empty : e.tag = ""
  · exact .inr ⟨_, _, _, .emptyTag empty⟩
  by_cases short : e.tag.utf8ByteSize ≤ maxTagLength
  swap
  · exact .inr ⟨_, _, _, .longTag (Nat.not_le.1 short)⟩
  by_cases chars : ∀ c ∈ e.tag.toList, isTagChar c = true
  swap
  · exact .inr ⟨_, _, _, .tagChar empty short (by simpa using chars)⟩
  have tag : TagText e.tag := ⟨empty, short, chars⟩
  by_cases warmup : ∀ n ∈ e.warmup, n ≤ maxRepetitions
  swap
  · push Not at warmup
    obtain ⟨n, given, large⟩ := warmup
    exact .inr ⟨_, _, _, .warmup tag given (UInt32.not_le.1 large)⟩
  by_cases cycles : ∀ n ∈ e.cycles, 1 ≤ n ∧ n ≤ maxRepetitions
  · exact .inl ⟨tag, warmup, cycles⟩
  push Not at cycles
  obtain ⟨n, given, wrong⟩ := cycles
  by_cases pos : 1 ≤ n
  · exact .inr ⟨_, _, _, .manyCycles tag warmup given (UInt32.not_le.1 (wrong pos))⟩
  · obtain rfl : n = 0 := UInt32.lt_one_iff.1 (UInt32.not_le.1 pos)
    exact .inr ⟨_, _, _, .noCycles tag warmup given⟩

theorem TagText.exists_tag {s : String} (h : TagText s) :
    ∃ t : WorkloadTag, t.text = s ∧ WorkloadTag.ofString s = .ok t := by
  obtain ⟨t, made⟩ := WorkloadTag.ofString_isOk_iff.2 h
  exact ⟨t, WorkloadTag.ofString_eq_ok.1 made, made⟩

theorem Valid.check (valid : e.Valid) : ∃ o : PlanOverride, o.written = e ∧ e.check = .ok o := by
  obtain ⟨t, tag, -⟩ := valid.tag.exists_tag
  obtain ⟨c, cycles⟩ : ∃ c : Option Cycles, c.map Cycles.count = e.cycles := by
    cases given : e.cycles with
    | none => exact ⟨none, rfl⟩
    | some n => exact ⟨some ⟨n, (valid.cycles n given).1, (valid.cycles n given).2⟩, rfl⟩
  have written : PlanOverride.written ⟨t, e.warmup, c⟩ = e := by rw [PlanOverride.written, tag, cycles]
  refine ⟨⟨t, e.warmup, c⟩, written, ?_⟩
  rw [← written]
  exact PlanOverride.check_written valid.warmup

theorem check_of_tagFault {fault : TagFault} (h : tagFault? e.tag = some fault) :
    e.check = .error (.invalidField "tag" e.tag fault.reason) := by
  have refused : WorkloadTag.ofString e.tag = .error (.invalidField "tag" e.tag fault.reason) := by
    unfold WorkloadTag.ofString
    split
    · rename_i none
      cases h.symm.trans none
    · rename_i other
      rw [Option.some.inj (h.symm.trans other)]
  rw [DraftEntry.check, refused]
  rfl

theorem check_of_cyclesFault (tag : TagText e.tag) (warmup : ∀ n ∈ e.warmup, n ≤ maxRepetitions) {n : UInt32}
    (given : e.cycles = some n) {err : ValidationError} (h : Cycles.ofCount n = .error err) : e.check = .error err := by
  obtain ⟨t, -, tagged⟩ := tag.exists_tag
  have warmed : e.warmup.mapM (checkWarmup t) = .ok e.warmup := by
    cases given : e.warmup with
    | none => rfl
    | some w =>
      have checked : checkWarmup t w = .ok w := if_pos (warmup w given)
      exact congrArg (some <$> ·) checked
  have counted : e.cycles.mapM Cycles.ofCount = .error err := by
    rw [given]
    exact congrArg (some <$> ·) h
  simp only [DraftEntry.check, tagged, warmed, counted, bind, Except.bind]

/-- **An entry with a fault is refused for it**, however many it has. -/
theorem Fault.check {field value reason : String} (fault : e.Fault field value reason) :
    e.check = .error (.invalidField field value reason) := by
  cases fault with
  | emptyTag h =>
    have found : tagFault? e.tag = some .empty := if_pos h
    exact check_of_tagFault found
  | longTag h =>
    have ne : e.tag ≠ "" := by
      intro empty
      rw [empty] at h
      exact absurd h (by decide)
    have found : tagFault? e.tag = some (.tooLong e.tag.utf8ByteSize) := by rw [tagFault?, if_neg ne, if_pos h]
    exact check_of_tagFault found
  | tagChar ne short h =>
    have chars : ¬ e.tag.toList.all isTagChar = true := by simpa using h
    have found : tagFault? e.tag = some .badCharacter := by
      rw [tagFault?, if_neg ne, if_neg (Nat.not_lt.2 short), if_neg chars]
    exact check_of_tagFault found
  | @warmup n tag given h =>
    obtain ⟨t, same, tagged⟩ := tag.exists_tag
    have refused : checkWarmup t n = .error _ := if_neg (UInt32.not_le.2 h)
    rw [same] at refused
    simp only [DraftEntry.check, tagged, given, Option.mapM_some, refused, bind, Except.bind, Functor.map, Except.map]
  | noCycles tag warmup given => exact check_of_cyclesFault tag warmup given rfl
  | @manyCycles n tag warmup given h =>
    have pos : 1 ≤ n := UInt32.le_of_lt (UInt32.lt_of_le_of_lt (by decide) h)
    exact check_of_cyclesFault tag warmup given ((dif_pos pos).trans (dif_neg (UInt32.not_le.2 h)))

end DraftEntry

/-- Entries of which none is wrong in itself or by those before it. -/
structure Sound (entries : List DraftEntry) : Prop where
  valid : ∀ e ∈ entries, e.Valid
  once : (entries.map (·.tag)).Nodup

/-- **Entries are all right up to the first that is not**, which has a fault of its own or repeats a tag. -/
theorem sound_or_first_fault (entries : List DraftEntry) :
    Sound entries ∨ ∃ before e after, entries = before ++ e :: after ∧ Sound before ∧
      ((∃ field value reason, e.Fault field value reason) ∨ e.Valid ∧ e.tag ∈ before.map (·.tag)) := by
  induction entries using List.reverseRecOn with
  | nil => exact .inl ⟨fun _ h => (nomatch h), List.nodup_nil⟩
  | append_singleton entries e ih =>
    rcases ih with sound | ⟨before, first, after, split, rest⟩
    · rcases e.valid_or_fault with valid | fault
      swap
      · exact .inr ⟨entries, e, [], rfl, sound, .inl fault⟩
      · by_cases again : e.tag ∈ entries.map (·.tag)
        · exact .inr ⟨entries, e, [], rfl, sound, .inr ⟨valid, again⟩⟩
        · refine .inl ⟨fun b hb => ?_, ?_⟩
          · rcases List.mem_append.1 hb with old | new
            · exact sound.valid b old
            · rwa [List.mem_singleton.1 new]
          · rw [List.map_append, List.map_singleton, List.nodup_append]
            refine ⟨sound.once, List.nodup_cons.2 ⟨List.not_mem_nil, List.nodup_nil⟩, fun a ha b hb same => again ?_⟩
            rwa [← List.mem_singleton.1 hb, ← same]
    · exact .inr ⟨before, first, after ++ [e], by rw [split]; simp, rest⟩

/-- **What is checked after entries that are all right** is compared with all their tags. -/
theorem checkEntries_append (rest : List DraftEntry) : ∀ {entries : List DraftEntry} (seen : List WorkloadTag),
    Sound entries → (∀ e ∈ entries, ∀ t ∈ seen, t.text ≠ e.tag) →
    ∃ os : List PlanOverride, os.map PlanOverride.written = entries ∧
      checkEntries seen (entries ++ rest) = (checkEntries ((os.map (·.tag)).reverse ++ seen) rest).map (os ++ ·)
  | [], seen, _, _ => ⟨[], rfl, by cases h : checkEntries seen rest <;> simp [h, Except.map]⟩
  | e :: entries, seen, sound, fresh => by
    obtain ⟨valid, others⟩ := List.forall_mem_cons.1 sound.valid
    obtain ⟨apart, once⟩ := List.nodup_cons.1 sound.once
    obtain ⟨fresh₁, fresh⟩ := List.forall_mem_cons.1 fresh
    obtain ⟨o, written, checked⟩ := valid.check
    have tag : o.tag.text = e.tag := congrArg DraftEntry.tag written
    obtain ⟨os, more, run⟩ := checkEntries_append rest (o.tag :: seen) ⟨others, once⟩ fun b hb => by
      refine List.forall_mem_cons.2 ⟨fun same => apart (List.mem_map.2 ⟨b, hb, ?_⟩), fresh b hb⟩
      exact same.symm.trans tag
    have new : seen.contains o.tag = false := by
      rw [List.contains_eq_mem, decide_eq_false_iff_not]
      exact fun old => fresh₁ o.tag old tag
    refine ⟨o :: os, by rw [List.map_cons, written, more], ?_⟩
    rw [List.cons_append, checkEntries, checked, List.map_cons, List.reverse_cons, List.append_assoc]
    simp only [bind, Except.bind, new, run, List.singleton_append]
    cases checkEntries ((os.map (·.tag)).reverse ++ o.tag :: seen) rest <;> rfl

namespace Draft

variable {d : Draft}

/-- A directory that has a name. -/
def Named (d : Draft) : Prop := ∃ c ∈ d.reportDir.toList, Text.isBlank c = false

/-- Nothing is wrong with what was written. -/
structure Valid (d : Draft) : Prop where
  named : d.Named
  entries : Sound d.entries

/-- **What a draft is refused for**: its directory, or else the first entry that is wrong in itself or repeats the tag
of one before it.  An entry that is wrong in itself is refused for that, be its tag new or not. -/
inductive FirstFault (d : Draft) : ValidationError → Prop where
  | directory (blank : ¬ d.Named) :
      FirstFault d (.invalidField "report_dir" d.reportDir "Report directory cannot be empty")
  | entry {before after : List DraftEntry} {e : DraftEntry} {field value reason : String} (named : d.Named)
      (split : d.entries = before ++ e :: after) (sound : Sound before) (fault : e.Fault field value reason) :
      FirstFault d (.invalidField field value reason)
  | again {before after : List DraftEntry} {e : DraftEntry} (named : d.Named)
      (split : d.entries = before ++ e :: after) (sound : Sound before) (valid : e.Valid)
      (old : e.tag ∈ before.map (·.tag)) : FirstFault d (.duplicateWorkload e.tag)

theorem named_iff : d.Named ↔ ¬ d.reportDir.toList.all Text.isBlank = true := by
  simp [Named]

theorem check_of_blank (blank : ¬ d.Named) :
    d.check = .error (.invalidField "report_dir" d.reportDir "Report directory cannot be empty") :=
  if_pos (by simpa [named_iff] using blank)

theorem check_of_named (named : d.Named) : d.check =
    (checkEntries [] d.entries).map fun os => ⟨d.reportDir, d.captureSystemInfo, os⟩ := by
  rw [check, if_neg (named_iff.1 named)]
  cases checkEntries [] d.entries <;> rfl

end Draft

theorem PlanOverride.written_injective {o o' : PlanOverride} (h : o.written = o'.written) : o = o' := by
  obtain ⟨t, w, c⟩ := o
  obtain ⟨t', w', c'⟩ := o'
  obtain ⟨tag, rfl, cycles⟩ := DraftEntry.mk.inj h
  obtain rfl := WorkloadTag.text_injective tag
  have count : Function.Injective Cycles.count := fun c c' same => by
    cases c
    cases c'
    cases same
    rfl
  exact congrArg (PlanOverride.mk t w) (Option.map_injective count cycles)

/-- What is written in a file for a run plan. -/
def Config.written (c : Config) : Draft := ⟨c.reportDir, c.captureSystemInfo, c.overrides.map PlanOverride.written⟩

theorem Config.written_injective {c c' : Config} (h : c.written = c'.written) : c = c' := by
  obtain ⟨dir, info, os⟩ := c
  obtain ⟨dir', info', os'⟩ := c'
  obtain ⟨rfl, rfl, same⟩ := Draft.mk.inj h
  exact congrArg (Config.mk dir info) ((List.map_inj_right fun _ _ => PlanOverride.written_injective).1 same)

namespace Draft

variable {d : Draft}

theorem check_of_valid (valid : d.Valid) : ∃ c : Config, c.written = d ∧ d.check = .ok c := by
  obtain ⟨os, written, checked⟩ := checkEntries_append [] [] valid.entries fun _ _ _ h => (nomatch h)
  refine ⟨⟨d.reportDir, d.captureSystemInfo, os⟩, by rw [Config.written, written], ?_⟩
  rw [List.append_nil] at checked
  rw [check_of_named valid.named, checked, checkEntries]
  simp [pure, Except.pure, Except.map]

theorem check_of_firstFault {err : ValidationError} (fault : d.FirstFault err) : d.check = .error err := by
  cases fault with
  | directory blank => exact check_of_blank blank
  | @entry before after e field value reason named split sound fault =>
    obtain ⟨os, -, run⟩ := checkEntries_append (e :: after) [] sound fun _ _ _ h => (nomatch h)
    rw [check_of_named named, split, run, checkEntries, fault.check]
    rfl
  | @again before after e named split sound valid old =>
    obtain ⟨os, written, run⟩ := checkEntries_append (e :: after) [] sound fun _ _ _ h => (nomatch h)
    obtain ⟨o, same, checked⟩ := valid.check
    have tag : o.tag.text = e.tag := congrArg DraftEntry.tag same
    have again : ((os.map PlanOverride.tag).reverse ++ []).contains o.tag = true := by
      rw [← written, List.map_map, List.mem_map] at old
      obtain ⟨o', ho', twice⟩ := old
      have once : o'.tag = o.tag := WorkloadTag.text_injective (twice.trans tag.symm)
      simp only [List.append_nil, List.contains_eq_mem, List.mem_reverse, List.mem_map, decide_eq_true_eq]
      exact ⟨o', ho', once⟩
    rw [check_of_named named, split, run, checkEntries, checked]
    simp only [bind, Except.bind, again, if_true, tag, Except.map]

/-- A draft is valid, or else there is a first fault. -/
theorem valid_or_firstFault (d : Draft) : d.Valid ∨ ∃ err, d.FirstFault err := by
  by_cases named : d.Named
  swap
  · exact .inr ⟨_, .directory named⟩
  rcases sound_or_first_fault d.entries with sound |
    ⟨before, e, after, split, sound, ⟨field, value, reason, fault⟩ | ⟨valid, old⟩⟩
  · exact .inl ⟨named, sound⟩
  · exact .inr ⟨_, .entry named split sound fault⟩
  · exact .inr ⟨_, .again named split sound valid old⟩

/-- **A draft is accepted exactly if it is valid, as it was written, and refused for its first fault.**  It is valid if
its directory has a character other than white space, each entry is valid in itself and no tag is written twice; the
run plan then holds just what was written, entry by entry.  Otherwise the answer is the fault of the directory, or of
the first entry that is wrong in itself or repeats an earlier tag. -/
theorem check_first_fault (d : Draft) :
    ((∃ c, d.check = .ok c) ↔ d.Valid) ∧ (∀ c, d.check = .ok c ↔ d.Valid ∧ c.written = d) ∧
    ∀ err, d.check = .error err ↔ d.FirstFault err := by
  have exact {c : Config} (accepted : d.check = .ok c) : d.Valid ∧ c.written = d := by
    rcases valid_or_firstFault d with valid | ⟨err, fault⟩
    · obtain ⟨c', written, checked⟩ := check_of_valid valid
      obtain rfl := Except.ok.inj (accepted.symm.trans checked)
      exact ⟨valid, written⟩
    · cases accepted.symm.trans (check_of_firstFault fault)
  refine ⟨⟨fun ⟨c, accepted⟩ => (exact accepted).1, fun valid => ?_⟩,
    fun c => ⟨exact, fun ⟨valid, written⟩ => ?_⟩, fun err => ⟨fun refused => ?_, check_of_firstFault⟩⟩
  · obtain ⟨c, -, checked⟩ := check_of_valid valid
    exact ⟨c, checked⟩
  · obtain ⟨c', written', checked⟩ := check_of_valid valid
    rw [checked, Config.written_injective (written'.trans written.symm)]
  · rcases valid_or_firstFault d with valid | ⟨err', fault⟩
    · obtain ⟨c, -, checked⟩ := check_of_valid valid
      cases refused.symm.trans checked
    · rwa [Except.error.inj (refused.symm.trans (check_of_firstFault fault))]

/-- A repeated tag is not what an entry without cycles is refused for. -/
example : Draft.check ⟨"data", true, [⟨"crc", none, none⟩, ⟨"crc", none, some 0⟩, ⟨"crc", none, none⟩]⟩ =
    .error (.invalidField "cycles" "0" "Measured cycles must be at least 1") := by decide +kernel

end Draft
end BenchSuite
