import BenchSuite.Proofs.Decimal.Digits
import BenchSuite.Proofs.Registry.Calls
/-!
# Selectors

A selector that is a number below `2 ^ 64` asks for a position, and any other text for a tag (`select_resolves`).  No
tag of the suite is a number, so a workload that is held is always found by its tag.
-/
namespace BenchSuite

open Decimal (Digit ofDigits number?_eq_some)

/-- A text that is a number: its digits, at least one, perhaps after a plus sign. -/
def IsNumber (s : String) (k : Nat) : Prop :=
  ∃ ds : List Digit, ds ≠ [] ∧ (s.toList = ds.map Digit.toChar ∨ s.toList = '+' :: ds.map Digit.toChar) ∧
    ofDigits ds = k

namespace Registry

theorem selectorIndex?_eq_some {s : String} {k : Nat} : selectorIndex? s = some k ↔ IsNumber s k ∧ k < UInt64.size := by
  have plus : ∀ ds : List Digit, ds ≠ [] → ∀ rest, ds.map Digit.toChar ≠ '+' :: rest := by
    intro ds ne rest h
    obtain ⟨d, ds, rfl⟩ := List.exists_cons_of_ne_nil ne
    have first : ∀ d : Digit, d.toChar ≠ '+' := by decide
    exact first d (List.cons.inj h).1
  unfold selectorIndex? IsNumber
  rw [Option.filter_eq_some_iff, decide_eq_true_eq]
  refine and_congr_left fun _ => ?_
  split
  · rename_i rest chars
    rw [number?_eq_some, chars]
    refine exists_congr fun ds => and_congr_right fun ne => ?_
    simp [(plus ds ne rest).symm]
  · rename_i other
    rw [number?_eq_some]
    refine exists_congr fun ds => and_congr_right fun ne => and_congr_left fun _ => ?_
    exact ⟨.inl, fun chars => chars.resolve_right fun plus => other _ plus⟩

variable {r : Registry} {s : String}

theorem select_of_isNumber {k : Nat} (number : IsNumber s k) (small : k < UInt64.size) : r.select s = r.byIndex k := by
  rw [select, selectorIndex?_eq_some.2 ⟨number, small⟩]

theorem select_of_not_isNumber (h : ∀ k < UInt64.size, ¬ IsNumber s k) : r.select s = r.get s := by
  have none : selectorIndex? s = none := by
    rw [Option.eq_none_iff_forall_ne_some]
    intro k found
    obtain ⟨number, small⟩ := selectorIndex?_eq_some.1 found
    exact h k small number
  rw [select, none]

theorem get_eq_error (h : ∀ w ∈ r.workloads, w.tag.text ≠ s) : r.get s = .error (.unknownWorkload s) := by
  have none : r.workloads.find? (·.tag.text == s) = none := List.find?_eq_none.2 fun w hw => by simpa using h w hw
  rw [get, none]

/-- A tag of the suite is no number. -/
theorem Sound.not_isNumber (sound : Sound r) {w : Workload} (held : w ∈ r.workloads) (k : Nat)
    (small : k < UInt64.size) : ¬ IsNumber w.tag.text k := by
  have suite : ∀ t ∈ Registry.builtin.tags, selectorIndex? t.text = none := by decide +kernel
  have tag := suite w.tag (sound.tags_sublist.subset (mem_tags.2 ⟨w, held, rfl⟩))
  intro number
  rw [selectorIndex?_eq_some.2 ⟨number, small⟩] at tag
  cases tag

/-- **What a selector leads to after any row of calls.**  A number below `2 ^ 64`, with or without a plus sign and
however many zeros in front, leads to the workload at that position, and beyond the last one to a refusal that names
the number.  Any other text, a number that is too large among them, leads to the workload with that tag, and without
one to a refusal that names the text.  So every workload that is held is found by its tag. -/
theorem select_resolves (calls : List Call) (s : String) :
    let r := after calls
    (∀ k < 2 ^ 64, IsNumber s k →
      (∀ h : k < r.workloads.length, r.select s = .ok r.workloads[k]) ∧
      (r.workloads.length ≤ k → r.select s = .error (.unknownWorkload (toString k)))) ∧
    ((∀ k < 2 ^ 64, ¬ IsNumber s k) →
      (∀ w ∈ r.workloads, w.tag.text = s → r.select s = .ok w) ∧
      ((∀ w ∈ r.workloads, w.tag.text ≠ s) → r.select s = .error (.unknownWorkload s))) ∧
    ∀ w ∈ r.workloads, r.select w.tag.text = .ok w := by
  intro r
  have sound : Sound r := sound_after calls
  refine ⟨fun k small number => ?_, fun other => ?_, fun w held => ?_⟩
  · rw [select_of_isNumber number small]
    exact ⟨fun h => byIndex_eq_ok.2 (List.getElem?_eq_getElem h), byIndex_of_size_le⟩
  · rw [select_of_not_isNumber other]
    exact ⟨fun w held tag => tag ▸ get_tag sound.nodup_tags held, get_eq_error⟩
  · rw [select_of_not_isNumber (sound.not_isNumber held)]
    exact get_tag sound.nodup_tags held

example : (builtin.select "+0011").map (·.tag) = .ok Workload.sha256.tag ∧
    (builtin.select "0012").map (·.tag) = .error (.unknownWorkload "12") ∧
    (builtin.select "018446744073709551616").map (·.tag) = .error (.unknownWorkload "018446744073709551616") := by
  decide +kernel

end Registry
end BenchSuite
