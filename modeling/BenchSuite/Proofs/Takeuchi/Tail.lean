import BenchSuite.Proofs.Takeuchi.Arena
import BenchSuite.Proofs.Takeuchi.ClosedForm
/-!
# The recursion of Takeuchi on lists

`Answers` is the recursion without any bound on its depth: it holds when the tree of calls is finite and
comes to an answer.  The spans of the lists follow the recursion on numbers, so the calls end within the
depth that `ListArena.tail` allows, and the answer is a list of the length that the closed form gives
(`tail_answers`).
-/
namespace BenchSuite.ListArena

open Takeuchi (answerLength callDepth)

/-- **The recursion, unbounded**: the calls for three lists come to an end, and this is the answer. -/
inductive Answers (arena : ListArena) : Link → Link → Link → Link → Prop
  | done {x y z : Link} : arena.isShorter y x = .ok false → Answers arena x y z z
  | call {x y z x' y' z' u v w r : Link} : arena.isShorter y x = .ok true →
      arena.next x = .ok x' → arena.next y = .ok y' → arena.next z = .ok z' →
      Answers arena x' y z u → Answers arena y' z x v → Answers arena z' x y w →
      Answers arena u v w r → Answers arena x y z r

theorem Answers.unique {arena : ListArena} {x y z r : Link} (h : arena.Answers x y z r) :
    ∀ {r' : Link}, arena.Answers x y z r' → r' = r := by
  induction h with
  | done stop =>
    intro r' h'
    cases h' with
    | done _ => rfl
    | call go => rw [stop] at go; cases go
  | call go hx hy hz _ _ _ _ ihu ihv ihw ihr =>
    intro r' h'
    cases h' with
    | done stop => rw [stop] at go; cases go
    | call _ hx' hy' hz' hu hv hw hr =>
      obtain rfl := Except.ok.inj (hx.symm.trans hx')
      obtain rfl := Except.ok.inj (hy.symm.trans hy')
      obtain rfl := Except.ok.inj (hz.symm.trans hz')
      obtain rfl := ihu hu
      obtain rfl := ihv hv
      obtain rfl := ihw hw
      exact ihr hr

theorem tailWithin_done {arena : ListArena} {x y : Link} (stop : arena.isShorter y x = .ok false)
    (fuel : Nat) (z : Link) : arena.tailWithin (fuel + 1) x y z = .ok z := by
  rw [tailWithin, stop]
  rfl

theorem tailWithin_call {arena : ListArena} {x y z x' y' z' u v w : Link} {fuel : Nat}
    (go : arena.isShorter y x = .ok true) (hx : arena.next x = .ok x') (hy : arena.next y = .ok y')
    (hz : arena.next z = .ok z') (hu : arena.tailWithin fuel x' y z = .ok u)
    (hv : arena.tailWithin fuel y' z x = .ok v) (hw : arena.tailWithin fuel z' x y = .ok w) :
    arena.tailWithin (fuel + 1) x y z = arena.tailWithin fuel u v w := by
  rw [tailWithin, go, hx, hy, hz]
  show (do
    let a ← arena.tailWithin fuel x' y z
    let b ← arena.tailWithin fuel y' z x
    let c ← arena.tailWithin fuel z' x y
    arena.tailWithin fuel a b c) = _
  rw [hu, hv, hw]
  rfl

/-- **Within the depth of the calls the recursion comes to its answer**, a list of the length that the
closed form gives. -/
theorem tailWithin_answers {arena : ListArena} (hw : arena.WellFormed) : ∀ (fuel : Nat) (x y z : Link),
    arena.Valid x → arena.Valid y → arena.Valid z →
    callDepth (arena.span x) (arena.span y) (arena.span z) ≤ fuel →
      ∃ r, arena.tailWithin fuel x y z = .ok r ∧ arena.Answers x y z r ∧ arena.Valid r ∧
        arena.span r = answerLength (arena.span x) (arena.span y) (arena.span z)
  | 0, x, y, z, _, _, _, hf => by
    by_cases hxy : arena.span x ≤ arena.span y
    · rw [Takeuchi.callDepth_of_le hxy] at hf
      omega
    · have := Takeuchi.one_lt_callDepth (c := arena.span z) (Nat.lt_of_not_le hxy)
      omega
  | fuel + 1, x, y, z, vx, vy, vz, hf => by
    have shorter := isShorter_eq hw vy vx
    by_cases hxy : arena.span x ≤ arena.span y
    · rw [decide_eq_false (Nat.not_lt.2 hxy)] at shorter
      exact ⟨z, tailWithin_done shorter fuel z, .done shorter, vz,
        (Takeuchi.answerLength_of_le hxy).symm⟩
    · have hyx : arena.span y < arena.span x := Nat.lt_of_not_le hxy
      rw [decide_eq_true hyx] at shorter
      obtain ⟨x', hx, vx', sx⟩ := next_eq hw vx
      obtain ⟨y', hy, vy', sy⟩ := next_eq hw vy
      obtain ⟨z', hz, vz', sz⟩ := next_eq hw vz
      have first := Takeuchi.callDepth_first (c := arena.span z) hyx
      have second := Takeuchi.callDepth_second (c := arena.span z) hyx
      have third := Takeuchi.callDepth_third (c := arena.span z) hyx
      obtain ⟨same, outer⟩ := Takeuchi.follows_inner (c := arena.span z) hyx
      obtain ⟨u, hu, au, vu, su⟩ := tailWithin_answers hw fuel x' y z vx' vy vz (by rw [sx]; omega)
      obtain ⟨v, hv, av, vv, sv⟩ := tailWithin_answers hw fuel y' z x vy' vz vx (by rw [sy]; omega)
      obtain ⟨w, hw', aw, vw, sw⟩ := tailWithin_answers hw fuel z' x y vz' vx vy (by rw [sz]; omega)
      rw [sx] at su
      rw [sy] at sv
      rw [sz] at sw
      obtain ⟨r, hr, ar, vr, sr⟩ := tailWithin_answers hw fuel u v w vu vv vw
        (by rw [su, sv, sw]; omega)
      refine ⟨r, ?_, .call shorter hx hy hz au av aw ar, vr, ?_⟩
      · rw [tailWithin_call shorter hx hy hz hu hv hw', hr]
      · rw [sr, su, sv, sw, same]

/-- **The recursion on lists ends, with a list of known length.**  In every arena made list by list, the
calls for any three lists come to an end, within the depth allowed, with one answer only; it counts down from
the length that the closed form gives for the lengths of the three. -/
theorem tail_answers (lengths : List UInt32) (x y z : Link) (hx : (made lengths).Valid x)
    (hy : (made lengths).Valid y) (hz : (made lengths).Valid z) :
    ∃ a b c r vs, (made lengths).length x = .ok a ∧ (made lengths).length y = .ok b ∧
      (made lengths).length z = .ok c ∧
      (∀ r', (made lengths).Answers x y z r' ↔ r' = r) ∧ (made lengths).tail x y z = .ok r ∧
      (made lengths).values r = .ok vs ∧ vs.map UInt32.toNat = countdown (answerLength a b c) ∧
      (r = none ↔ answerLength a b c = 0) := by
  have hw := made_wellFormed lengths
  obtain ⟨r, hr, answers, vr, sr⟩ := tailWithin_answers hw (2 * (made lengths).elements.size + 1) x y z
    hx hy hz (Takeuchi.callDepth_le (span_le_size hw hx) (span_le_size hw hz))
  obtain ⟨vs, hvs, counts⟩ := values_eq hw vr
  refine ⟨_, _, _, r, vs, length_eq hw hx, length_eq hw hy, length_eq hw hz, ?_, hr, hvs, ?_, ?_⟩
  · intro r'
    constructor
    · exact answers.unique
    · rintro rfl
      exact answers
  · rw [counts, sr]
  · rw [← span_eq_zero hw vr, sr]

/-- Lists of length three, one and five: the third is far longer, by an even number, so the answer is
as long as the first. -/
theorem tail_answers_three_one_five :
    (made [3, 1, 5]).Valid (some 2) ∧ (made [3, 1, 5]).Valid (some 3) ∧ (made [3, 1, 5]).Valid (some 8) ∧
      ∃ r vs, (made [3, 1, 5]).tail (some 2) (some 3) (some 8) = .ok r ∧
        (made [3, 1, 5]).values r = .ok vs ∧ vs.map UInt32.toNat = [3, 2, 1] := by
  have hx : (made [3, 1, 5]).Valid (some 2) := fun i hi => by cases hi; decide
  have hy : (made [3, 1, 5]).Valid (some 3) := fun i hi => by cases hi; decide
  have hz : (made [3, 1, 5]).Valid (some 8) := fun i hi => by cases hi; decide
  refine ⟨hx, hy, hz, ?_⟩
  obtain ⟨a, b, c, r, vs, ha, hb, hc, -, hr, hvs, counts, -⟩ := tail_answers [3, 1, 5] _ _ _ hx hy hz
  obtain rfl : 3 = a := Except.ok.inj ha
  obtain rfl : 1 = b := Except.ok.inj hb
  obtain rfl : 5 = c := Except.ok.inj hc
  exact ⟨r, vs, hr, hvs, counts⟩

end BenchSuite.ListArena
