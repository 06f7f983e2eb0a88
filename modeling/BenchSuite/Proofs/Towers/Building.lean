import BenchSuite.Proofs.Towers.Moving
/-!
# When a tower can be built

The disks of a new tower are put down one by one, the largest first.  Only that one can be refused: each of the others
is smaller than the one before it (`stack_done`).  A refusal therefore comes before any disk lies on the pile, and what
it leaves is one more disk in the arena that no link leads to (`build_refused`).  So a tower is built whole or not at
all (`build_after`).
-/
namespace BenchSuite.Towers

open Function (update)

variable {t : Towers} {piles : Fin pileCount → List UInt32} {p : Fin pileCount}

/-- The sizes of a tower of disks, from the smallest. -/
def tower (n : Nat) : List UInt32 := (List.range n).map UInt32.ofNat

theorem tower_succ (n : Nat) : tower (n + 1) = tower n ++ [UInt32.ofNat n] := by
  rw [tower, List.range_succ, List.map_append, List.map_singleton, tower]

/-- **A tower is stacked** when its lowest disk, of the size `n - 1`, fits. -/
theorem stack_done (p : Fin pileCount) : ∀ (n : Nat) {t : Towers} {piles : Fin pileCount → List UInt32},
    t.Shows piles → n ≤ UInt32.size → (∀ top ∈ (piles p).head?, n ≤ top.toNat) →
    ∃ t', stack p n t = .ok (.ok (), t') ∧ t'.Shows (update piles p (tower n ++ piles p)) ∧ t'.moves = t.moves
  | 0, t, piles, shown, _, _ => ⟨t, rfl, by simpa [tower] using shown, rfl⟩
  | n + 1, t, piles, shown, width, fits => by
    have size : (UInt32.ofNat n).toNat = n := UInt32.toNat_ofNat_of_lt' (by omega)
    have lowest : Fits (UInt32.ofNat n) (piles p) := fun top there => by
      rw [UInt32.lt_iff_toNat_lt, size]
      exact fits top there
    obtain ⟨t₁, pushed, shown₁, moves₁⟩ := push_fits (aside_new shown (UInt32.ofNat n)) lowest
    -- the next size fits on the disk that was just put down
    obtain ⟨t₂, stacked, shown₂, moves₂⟩ := stack_done p n shown₁ (by omega) (by simp [size])
    refine ⟨t₂, ?_, ?_, moves₂.trans moves₁⟩
    · rw [stack_succ, pushed, andThen_done, stacked]
    · simpa [tower_succ] using shown₂

theorem build_done {largest : UInt32} (shown : t.Shows piles) (fits : Fits largest (piles p)) :
    ∃ t', build p largest t = .ok (.ok (), t') ∧
      t'.Shows (update piles p (tower (largest.toNat + 1) ++ piles p)) ∧ t'.moves = t.moves :=
  stack_done p (largest.toNat + 1) shown largest.toNat_lt fun top there => UInt32.lt_iff_toNat_lt.1 (fits top there)

/-- **A tower whose largest disk does not fit is refused** before any disk is put down. -/
theorem build_refused {largest top : UInt32} {rest : List UInt32} (shown : t.Shows piles) (piled : piles p = top :: rest)
    (oversized : top ≤ largest) : ∃ t', build p largest t = .ok (.error (.oversizedDisk largest top p), t') ∧
      t'.Shows piles ∧ t'.moves = t.moves := by
  have aside := aside_new shown largest
  refine ⟨_, ?_, aside.shows, rfl⟩
  rw [build, stack_succ, UInt32.ofNat_toNat, push_oversized aside piled oversized, andThen_refused]

theorem fits_iff {d : UInt32} {pile : List UInt32} : Fits d pile ↔ pile = [] ∨ ∃ top ∈ pile.head?, d < top := by
  cases pile <;> simp [Fits]

/-- **A tower is built whole or not at all.**  It is built just when the pile is empty or its top disk is larger than
the largest one of the tower, which then lies on what lay there.  Otherwise the error names that disk, the top and the
pile, and the pile is left as it was.  The other piles and the moves are not touched either way. -/
theorem build_after {calls : List Call} (reached : after calls = .ok t) (p : Fin pileCount) (largest : UInt32) :
    ∃ (sizes : Fin pileCount → List UInt32) (result : Except KernelError Unit) (t' : Towers),
      (∀ q : Fin pileCount, t.pileSizes q = .ok (sizes q)) ∧ build p largest t = .ok (result, t') ∧
      (result = .ok () ↔ sizes p = [] ∨ ∃ top ∈ (sizes p).head?, largest < top) ∧
      (result = .ok () → t'.pileSizes p = .ok (tower (largest.toNat + 1) ++ sizes p) ∧
        ∀ q : Fin pileCount, q ≠ p → t'.pileSizes q = .ok (sizes q)) ∧
      (∀ e, result = .error e → (∃ top ∈ (sizes p).head?, e = .oversizedDisk largest top p) ∧
        ∀ q : Fin pileCount, t'.pileSizes q = .ok (sizes q)) ∧
      t'.moves = t.moves := by
  obtain ⟨sizes, shown⟩ := sound_after reached
  rcases fits_or_oversized largest (sizes p) with fits | ⟨top, rest, piled, oversized⟩
  · obtain ⟨t', built, shown', moves⟩ := build_done shown fits
    refine ⟨sizes, .ok (), t', shown.pileSizes, built, iff_of_true rfl (fits_iff.1 fits),
      fun _ => ⟨?_, fun q other => ?_⟩, by simp, moves⟩
    · simpa using shown'.pileSizes p
    · simpa [other] using shown'.pileSizes q
  · obtain ⟨t', refused, shown', moves⟩ := build_refused shown piled oversized
    refine ⟨sizes, .error (.oversizedDisk largest top p), t', shown.pileSizes, refused, ?_, by simp, ?_, moves⟩
    · exact iff_of_false (by simp) (by simpa [piled] using oversized)
    · rintro _ ⟨⟩
      exact ⟨⟨top, by simp [piled], rfl⟩, shown'.pileSizes⟩

/-- A tower of three on a disk of size 3, and one whose largest disk is as large as the disk that it comes to. -/
theorem build_after_spread : ∃ t t₁ t₂, after spread = .ok t ∧ t.pileSizes 1 = .ok [3] ∧ t.pileSizes 2 = .ok [2] ∧
    build 1 2 t = .ok (.ok (), t₁) ∧ t₁.pileSizes 1 = .ok [0, 1, 2, 3] ∧ t₁.pileSizes 2 = .ok [2] ∧
    build 2 2 t = .ok (.error (.oversizedDisk 2 2 2), t₂) ∧ t₂.pileSizes 1 = .ok [3] ∧ t₂.pileSizes 2 = .ok [2] := by
  obtain ⟨sizes, result, t₁, shown, built, done, effect, -⟩ := build_after after_spread 1 2
  obtain ⟨sizes₂, result₂, t₂, shown₂, built₂, done₂, -, refusal, -⟩ := build_after after_spread 2 2
  obtain rfl : sizes₂ = sizes := funext fun q => Except.ok.inj ((shown₂ q).symm.trans (shown q))
  have second : sizes₂ 1 = [3] := Except.ok.inj (shown 1).symm
  have third : sizes₂ 2 = [2] := Except.ok.inj (shown 2).symm
  obtain rfl : result = .ok () := done.2 (by simp [second])
  obtain ⟨stacked, others⟩ := effect rfl
  rw [second] at stacked
  cases result₂ with
  | ok _ =>
    have fits := done₂.1 rfl
    simp [third] at fits
  | error e =>
    obtain ⟨⟨top, there, rfl⟩, same⟩ := refusal e rfl
    obtain rfl : 2 = top := by simpa [third] using there
    exact ⟨_, t₁, t₂, after_spread, rfl, rfl, built, stacked, third ▸ others 2 (by decide), built₂, second ▸ same 1,
      third ▸ same 2⟩

end BenchSuite.Towers
