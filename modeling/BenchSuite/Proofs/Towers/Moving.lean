import Mathlib.Algebra.Group.Nat.Defs
import Mathlib.Data.List.Induction
import BenchSuite.Proofs.Towers.Steps
/-!
# When a tower can be moved

A tower of disks goes from one pile to another when its lowest disk fits on the target and the one above it, if there
is one, fits on the third pile (`Movable`): the disks above these are smaller still, and what the tower leaves on its
own pile is larger.  Then it comes to lie there as it lay, by `2 ^ n - 1` moves for `n` disks (`move_done`), and
otherwise the move is refused (`move_refused`).
-/
namespace BenchSuite.Towers

open Function (update)

variable {t : Towers} {piles : Fin pileCount → List UInt32} {source target other : Fin pileCount} {d e : UInt32}
  {init rest : List UInt32}

theorem Fits.of_lt {pile : List UInt32} (fits : Fits d pile) (lt : e < d) : Fits e pile := fun top there =>
  UInt32.lt_trans lt (fits top there)

/-- Three piles, each another one. -/
structure Distinct (source target other : Fin pileCount) : Prop where
  target_ne : target ≠ source
  other_ne_source : other ≠ source
  other_ne_target : other ≠ target

namespace Distinct

variable (three : Distinct source target other)
include three

theorem toOther : Distinct source other target :=
  ⟨three.other_ne_source, three.target_ne, three.other_ne_target.symm⟩

theorem fromOther : Distinct other target source :=
  ⟨three.other_ne_target.symm, three.other_ne_source.symm, three.target_ne.symm⟩

end Distinct

theorem otherPile_eq (three : Distinct source target other) : otherPile source target = .ok other.val := by
  have all : ∀ source target other : Fin pileCount, target ≠ source → other ≠ source → other ≠ target →
      otherPile source target = .ok other.val := by decide
  exact all _ _ _ three.target_ne three.other_ne_source three.other_ne_target

/-! ## One disk -/

theorem moveTop_nil (shown : t.Shows piles) (bare : piles source = []) (target : Nat) :
    moveTop source target t = .ok (.error (.emptyPile source), t) := by
  rw [moveTop, pop_nil shown bare, andThen_refused]

theorem moveTop_done (three : Distinct source target other) (shown : t.Shows piles) (piled : piles source = d :: rest)
    (fits : Fits d (piles target)) (room : t.moves.toNat + 1 < UInt64.size) :
    ∃ t' piles', moveTop source target t = .ok (.ok (), t') ∧ t'.Shows piles' ∧ piles' source = rest ∧
      piles' target = d :: piles target ∧ piles' other = piles other ∧ t'.moves.toNat = t.moves.toNat + 1 := by
  obtain ⟨i, t₁, popped, aside, moves₁⟩ := pop_cons shown piled
  have there : update piles source rest target = piles target := Function.update_of_ne three.target_ne _ _
  obtain ⟨t₂, pushed, shown₂, moves₂⟩ := push_fits aside (there ▸ fits)
  have counted : Checked.succ t₂.moves = .ok (t.moves + 1) := by
    rw [moves₂, moves₁]
    exact if_pos room
  refine ⟨_, _, ?_, shows_moves shown₂ (t.moves + 1), ?_, ?_, ?_, ?_⟩
  · simp only [moveTop, popped, pushed, andThen_done, counted, Checked.ok_bind]
    rfl
  · simp [three.target_ne.symm]
  · simp [three.target_ne]
  · simp [three.other_ne_source, three.other_ne_target]
  · rw [UInt64.toNat_add]
    exact Nat.mod_eq_of_lt room

theorem moveTop_oversized (three : Distinct source target other) (shown : t.Shows piles)
    (piled : piles source = d :: rest) (oversized : ¬ Fits d (piles target)) :
    ∃ e t', moveTop source target t = .ok (.error e, t') := by
  obtain ⟨i, t₁, popped, aside, -⟩ := pop_cons shown piled
  have there : update piles source rest target = piles target := Function.update_of_ne three.target_ne _ _
  rcases fits_or_oversized d (update piles source rest target) with fits | ⟨top, below, targetPiled, le⟩
  · exact absurd (there ▸ fits) oversized
  · refine ⟨.oversizedDisk d top target, t₁, ?_⟩
    rw [moveTop, popped, andThen_done, push_oversized aside targetPiled le, andThen_refused]

/-! ## A tower -/

/-- **A tower that can be moved**: its lowest disk fits on the target, and the disk above that one fits on the third
pile. -/
structure Movable (piles : Fin pileCount → List UInt32) (source target other : Fin pileCount) (init : List UInt32)
    (d : UInt32) (rest : List UInt32) : Prop where
  piled : piles source = init ++ d :: rest
  fits : Fits d (piles target)
  inner : ∀ e ∈ init.getLast?, Fits e (piles other)

theorem move_succ_succ (three : Distinct source target other) (n : Nat) (t : Towers) :
    move (n + 2) source target t = Result.andThen (move (n + 1) source other t) fun _ t =>
      Result.andThen (moveTop source target t) fun _ t => move (n + 1) other target t := by
  rw [move, otherPile_eq three]
  rfl

/-- The moves of the disks above the lowest one, twice, and the move of the lowest one. -/
theorem moves_succ (n : Nat) : 2 ^ (n + 2) - 1 = 2 ^ (n + 1) - 1 + 1 + (2 ^ (n + 1) - 1) := by
  have pos : 0 < 2 ^ (n + 1) := Nat.two_pow_pos _
  rw [Nat.pow_succ 2 (n + 1)]
  omega

namespace Movable

theorem ordered (shown : t.Shows piles) (movable : Movable piles source target other (init ++ [e]) d rest) :
    (∀ e' ∈ init, ∀ below ∈ e :: d :: rest, e' < below) ∧ e < d := by
  have all := shown.ordered source
  rw [movable.piled, List.append_assoc, List.singleton_append, List.pairwise_append] at all
  exact ⟨all.2.2, List.rel_of_pairwise_cons all.2.1 (by simp)⟩

theorem first (shown : t.Shows piles) (movable : Movable piles source target other (init ++ [e]) d rest) :
    Movable piles source other target init e (d :: rest) := by
  refine ⟨by simpa using movable.piled, movable.inner e (by simp), fun e' he' => movable.fits.of_lt ?_⟩
  exact (movable.ordered shown).1 e' (List.mem_of_getLast? he') d (by simp)

end Movable

/-- **A tower that can be moved is moved**: it lies on the target as it lay, and the third pile is as it was. -/
theorem move_done (three : Distinct source target other) (shown : t.Shows piles)
    (movable : Movable piles source target other init d rest)
    (room : t.moves.toNat + (2 ^ (init.length + 1) - 1) < UInt64.size) :
    ∃ t' piles', move (init.length + 1) source target t = .ok (.ok (), t') ∧ t'.Shows piles' ∧ piles' source = rest ∧
      piles' target = init ++ d :: piles target ∧ piles' other = piles other ∧
      t'.moves.toNat = t.moves.toNat + (2 ^ (init.length + 1) - 1) := by
  induction init using List.reverseRecOn generalizing source target other t piles d rest with
  | nil => exact moveTop_done three shown movable.piled movable.fits room
  | append_singleton init e ih =>
    obtain ⟨above, smaller⟩ := movable.ordered shown
    have length : (init ++ [e]).length + 1 = init.length + 2 := by simp
    rw [length, moves_succ] at room ⊢
    -- the tower above `d` goes to the third pile, `d` to the target, and the tower after it
    obtain ⟨t₁, piles₁, run₁, shown₁, source₁, other₁, target₁, moves₁⟩ :=
      ih three.toOther shown (movable.first shown) (by omega)
    obtain ⟨t₂, piles₂, run₂, shown₂, source₂, target₂, other₂, moves₂⟩ :=
      moveTop_done three shown₁ source₁ (target₁ ▸ movable.fits) (by omega)
    have last : Movable piles₂ other target source init e (piles other) := by
      refine ⟨other₂.trans other₁, ?_, fun e' he' top there => ?_⟩
      · rw [target₂]
        simpa [Fits] using smaller
      · rw [source₂] at there
        exact above e' (List.mem_of_getLast? he') top (by simp [List.mem_of_mem_head? there])
    obtain ⟨t₃, piles₃, run₃, shown₃, other₃, target₃, source₃, moves₃⟩ := ih three.fromOther shown₂ last (by omega)
    refine ⟨t₃, piles₃, ?_, shown₃, source₃.trans source₂, ?_, other₃, by omega⟩
    · rw [move_succ_succ three, run₁, andThen_done, run₂, andThen_done, run₃]
    · rw [target₃, target₂, target₁]
      simp

/-- **A tower that cannot be moved is refused**, sooner or later. -/
theorem move_refused (three : Distinct source target other) (shown : t.Shows piles) (n : Nat)
    (room : t.moves.toNat + (2 ^ (n + 1) - 1) < UInt64.size)
    (none : ∀ init d rest, init.length = n → ¬ Movable piles source target other init d rest) :
    ∃ e t', move (n + 1) source target t = .ok (.error e, t') := by
  induction n generalizing source target other t piles with
  | zero =>
    cases piled : piles source with
    | nil => exact ⟨_, _, moveTop_nil shown piled target⟩
    | cons d rest =>
      refine moveTop_oversized three shown piled fun fits => none [] d rest rfl ⟨piled, fits, by simp⟩
  | succ n ih =>
    rw [moves_succ] at room
    rw [move_succ_succ three]
    by_cases above : ∃ init e rest, init.length = n ∧ Movable piles source other target init e rest
    · -- the tower above the lowest disk is moved, so it is the lowest disk that is missing or does not fit
      obtain ⟨init, e, rest, rfl, movable⟩ := above
      obtain ⟨t₁, piles₁, run₁, shown₁, source₁, other₁, target₁, moves₁⟩ :=
        move_done three.toOther shown movable (by omega)
      rw [run₁, andThen_done]
      have refused : ∃ e t', moveTop source target t₁ = .ok (.error e, t') := by
        cases rest with
        | nil => exact ⟨_, _, moveTop_nil shown₁ source₁ target⟩
        | cons d rest =>
          refine moveTop_oversized three shown₁ source₁ fun fits => ?_
          refine none (init ++ [e]) d rest (by simp) ⟨by simpa using movable.piled, target₁ ▸ fits, ?_⟩
          simpa using movable.fits
      obtain ⟨e, t₂, run₂⟩ := refused
      exact ⟨e, t₂, by rw [run₂, andThen_refused]⟩
    · obtain ⟨e, t₁, run₁⟩ := ih three.toOther shown (by omega) fun init d rest length movable =>
        above ⟨init, d, rest, length, movable⟩
      exact ⟨e, t₁, by rw [run₁, andThen_refused]⟩

/-- Whether the tower of the top `n + 1` disks can be moved, by the sizes on the piles. -/
theorem exists_movable_iff (n : Nat) :
    (∃ init d rest, init.length = n ∧ Movable piles source target other init d rest) ↔
      n + 1 ≤ (piles source).length ∧ (∀ d ∈ (piles source)[n]?, Fits d (piles target)) ∧
        (1 ≤ n → ∀ e ∈ (piles source)[n - 1]?, Fits e (piles other)) := by
  constructor
  · rintro ⟨init, d, rest, rfl, piled, fits, inner⟩
    rw [piled]
    refine ⟨by simp, by simpa using fits, fun pos e he => inner e ?_⟩
    rw [List.getElem?_append_left (by omega)] at he
    rwa [List.getLast?_eq_getElem?]
  · rintro ⟨enough, fits, inner⟩
    have length : ((piles source).take n).length = n := List.length_take_of_le (by omega)
    refine ⟨(piles source).take n, (piles source)[n], (piles source).drop (n + 1), length, ?_, ?_, fun e he => ?_⟩
    · rw [← List.drop_eq_getElem_cons, List.take_append_drop]
    · exact fits _ (List.getElem?_eq_getElem enough)
    · rw [List.getLast?_eq_getElem?, length] at he
      have pos : 1 ≤ n := by
        have := (List.getElem?_eq_some_iff.1 he).1
        omega
      rw [List.getElem?_take_of_lt (by omega)] at he
      exact inner pos e he

/-- **When a tower can be moved, and what becomes of it.**  With the counter far enough from its end the move comes to
an answer.  It is done just when the first pile has as many disks, the lowest of them fits on the target, and the one
above that, if there is one, fits on the third pile.  Then the disks lie on the target as they lay, the first pile has
lost them and no others, the third one is as it was, and the counter has gone up by `2 ^ n - 1`. -/
theorem move_after {calls : List Call} (reached : after calls = .ok t) (three : Distinct source target other) {n : Nat}
    (pos : 1 ≤ n) (room : t.moves.toNat + (2 ^ n - 1) < UInt64.size) :
    ∃ xs ys zs result t', t.pileSizes source = .ok xs ∧ t.pileSizes target = .ok ys ∧ t.pileSizes other = .ok zs ∧
      move n source target t = .ok (result, t') ∧
      (result = .ok () ↔ n ≤ xs.length ∧ (∀ d ∈ xs[n - 1]?, Fits d ys) ∧ (2 ≤ n → ∀ e ∈ xs[n - 2]?, Fits e zs)) ∧
      (result = .ok () → t'.pileSizes source = .ok (xs.drop n) ∧ t'.pileSizes target = .ok (xs.take n ++ ys) ∧
        t'.pileSizes other = .ok zs ∧ t'.moves.toNat = t.moves.toNat + (2 ^ n - 1)) := by
  obtain ⟨piles, shown⟩ := sound_after reached
  obtain ⟨n, rfl⟩ : ∃ m, n = m + 1 := ⟨n - 1, by omega⟩
  have condition := @exists_movable_iff piles source target other n
  have second : 2 ≤ n + 1 ↔ 1 ≤ n := by omega
  simp only [Nat.add_sub_cancel, second, Nat.reduceSubDiff]
  by_cases can : ∃ init d rest, init.length = n ∧ Movable piles source target other init d rest
  · obtain ⟨init, d, rest, rfl, movable⟩ := can
    obtain ⟨t', piles', run, shown', source', target', other', moves⟩ := move_done three shown movable room
    refine ⟨_, _, _, .ok (), t', shown.pileSizes source, shown.pileSizes target, shown.pileSizes other, run,
      iff_of_true rfl (condition.1 ⟨init, d, rest, rfl, movable⟩), fun _ => ⟨?_, ?_, ?_, moves⟩⟩
    · rw [shown'.pileSizes, source', movable.piled]
      simp
    · rw [shown'.pileSizes, target', movable.piled]
      simp [List.take_append, List.take_of_length_le (Nat.le_succ init.length)]
    · rw [shown'.pileSizes, other']
  · obtain ⟨e, t', run⟩ := move_refused three shown n room fun init d rest length movable =>
      can ⟨init, d, rest, length, movable⟩
    exact ⟨_, _, _, .error e, t', shown.pileSizes source, shown.pileSizes target, shown.pileSizes other, run,
      iff_of_false (by simp) (can ∘ condition.2), by simp⟩

/-- Towers with the disks 0 and 1, 3, and 2 on the piles. -/
def spread : List Call := [.build 1 3, .move 3 1 2, .move 2 2 0]

theorem after_spread : after spread =
    .ok ⟨#[⟨3, none⟩, ⟨2, none⟩, ⟨1, none⟩, ⟨0, some 2⟩], #v[some 3, some 0, some 1], 10⟩ := by
  decide +kernel

/-- A tower of two between larger disks. -/
theorem move_after_spread : ∃ t t', after spread = .ok t ∧ t.pileSizes 0 = .ok [0, 1] ∧ t.pileSizes 1 = .ok [3] ∧
    t.pileSizes 2 = .ok [2] ∧ move 2 0 1 t = .ok (.ok (), t') ∧ t'.pileSizes 1 = .ok [0, 1, 3] ∧
    t'.pileSizes 2 = .ok [2] ∧ t'.moves.toNat = 13 := by
  have three : Distinct 0 1 2 := ⟨by decide, by decide, by decide⟩
  obtain ⟨xs, ys, zs, result, t', hxs, hys, hzs, run, done, effect⟩ :=
    move_after after_spread three (show 1 ≤ 2 by decide) (by decide +kernel)
  obtain rfl : [0, 1] = xs := Except.ok.inj hxs
  obtain rfl : [3] = ys := Except.ok.inj hys
  obtain rfl : [2] = zs := Except.ok.inj hzs
  obtain rfl : result = .ok () := done.2 (by simp [Fits])
  obtain ⟨-, target, other, moves⟩ := effect rfl
  exact ⟨_, t', after_spread, hxs, hys, hzs, run, target, other, moves⟩

end BenchSuite.Towers
