import Mathlib.Algebra.BigOperators.Fin
import BenchSuite.Proofs.Towers.Piles
/-!
# Whatever is built and moved

A step that may be refused is followed on what it comes to, done or refused (`Ends`).  What a pop and a push can do is
said once (`ends_pop`, `ends_push`).  From it, a move keeps the disks on the piles but for one that it drops
(`ends_move`), and every step on towers that show three piles leaves towers that show three piles, whatever its
arguments.  So does every row of calls that meets no fault (`sound_after`): the links of each pile end inside the arena,
no disk is on two piles or twice on one, and the sizes on a pile grow from the top down (`after_piled`).
-/
namespace BenchSuite.Towers

open Function (update update_self update_of_ne update_idem update_eq_self)

variable {α β : Type} {t : Towers}

@[simp] theorem andThen_done (a : α) (t : Towers) (next : α → Towers → Checked (Result β)) :
    Result.andThen (.ok (.ok a, t)) next = next a t := rfl

@[simp] theorem andThen_refused (e : KernelError) (t : Towers) (next : α → Towers → Checked (Result β)) :
    Result.andThen (.ok (.error e, t)) next = .ok (.error e, t) := rfl

/-- **What a step comes to** when it is done and when it is refused; a fault leaves nothing. -/
structure Ends (x : Checked (Result α)) (done : α → Towers → Prop) (refused : KernelError → Towers → Prop) :
    Prop where
  of_done : ∀ a t, x = .ok (.ok a, t) → done a t
  of_refused : ∀ e t, x = .ok (.error e, t) → refused e t

section

variable {done : α → Towers → Prop} {refused : KernelError → Towers → Prop}

theorem ends_done {a : α} (h : done a t) : Ends (.ok (.ok a, t)) done refused :=
  ⟨by rintro _ _ ⟨⟩; exact h, by rintro _ _ ⟨⟩⟩

theorem ends_refused {e : KernelError} (h : refused e t) : Ends (.ok (.error e, t)) done refused :=
  ⟨by rintro _ _ ⟨⟩, by rintro _ _ ⟨⟩; exact h⟩

theorem ends_fault (f : Fault) : Ends (.error f) done refused :=
  ⟨by rintro _ _ ⟨⟩, by rintro _ _ ⟨⟩⟩

/-- The next step starts where the first one is done; what the first leaves when it is refused is left. -/
theorem Ends.andThen {x : Checked (Result α)} {next : α → Towers → Checked (Result β)} {last : β → Towers → Prop}
    (first : Ends x done refused) (second : ∀ a t, done a t → Ends (next a t) last refused) :
    Ends (Result.andThen x next) last refused := by
  rcases x with f | ⟨e | a, t⟩
  · exact ends_fault f
  · exact ends_refused (first.of_refused e t rfl)
  · exact second a t (first.of_done a t rfl)

end

theorem Ends.mono {x : Checked (Result α)} {done done' : α → Towers → Prop} {refused refused' : KernelError → Towers → Prop}
    (h : Ends x done refused) (ofDone : ∀ a t, done a t → done' a t) (ofRefused : ∀ e t, refused e t → refused' e t) :
    Ends x done' refused' :=
  ⟨fun a t run => ofDone a t (h.of_done a t run), fun e t run => ofRefused e t (h.of_refused e t run)⟩

/-! ## What a pop and a push can do -/

section

variable {piles : Fin pileCount → List UInt32}

theorem ends_pop (shown : t.Shows piles) (pile : Nat) :
    Ends (t.pop pile) (fun i t => ∃ p d rest, piles p = d :: rest ∧ t.Aside (update piles p rest) i d)
      fun e t => e = .emptyPile pile ∧ t.Shows piles := by
  by_cases there : pile < pileCount
  · cases piled : piles ⟨pile, there⟩ with
    | nil =>
      rw [pop_nil shown piled]
      exact ends_refused ⟨rfl, shown⟩
    | cons d rest =>
      obtain ⟨i, t', popped, aside, -⟩ := pop_cons shown piled
      rw [popped]
      exact ends_done ⟨_, _, _, piled, aside⟩
  · rw [pop, Checked.nth, dif_neg there]
    exact ends_fault _

theorem ends_push {i : Nat} {d : UInt32} (aside : t.Aside piles i d) (pile : Nat) :
    Ends (t.push i pile) (fun _ t => ∃ p, t.Shows (update piles p (d :: piles p)))
      fun e t => (∃ top, e = .oversizedDisk d top pile) ∧ t.Shows piles := by
  by_cases there : pile < pileCount
  · rcases fits_or_oversized d (piles ⟨pile, there⟩) with fits | ⟨top, rest, piled, oversized⟩
    · obtain ⟨t', pushed, shown, -⟩ := push_fits aside fits
      rw [pushed]
      exact ends_done ⟨_, shown⟩
    · rw [push_oversized aside piled oversized]
      exact ends_refused ⟨⟨top, rfl⟩, aside.shows⟩
  · rw [push, Checked.nth, dif_neg there]
    exact ends_fault _

/-- How many moves were made is no matter of what is shown. -/
theorem shows_moves (shown : t.Shows piles) (m : UInt64) : Shows { t with moves := m } piles := by
  obtain ⟨on, ⟨linked, apart, ordered⟩, sizes⟩ := shown
  exact ⟨on, ⟨linked, apart, ordered⟩, sizes⟩

/-! ## The disks on all piles -/

/-- The sizes of the disks on all piles together. -/
def total (piles : Fin pileCount → List UInt32) : Multiset UInt32 := ∑ p, (piles p : Multiset UInt32)

theorem total_cons (piles : Fin pileCount → List UInt32) (p : Fin pileCount) (d : UInt32) :
    total (update piles p (d :: piles p)) = d ::ₘ total piles := by
  have others : ∀ q ∈ Finset.univ.erase p, (update piles p (d :: piles p) q : Multiset UInt32) = piles q := fun q hq => by
    rw [update_of_ne (Finset.ne_of_mem_erase hq)]
  rw [total, total, ← Finset.add_sum_erase _ _ (Finset.mem_univ p), Finset.sum_congr rfl others, update_self,
    ← Multiset.cons_coe, Multiset.cons_add, Finset.add_sum_erase _ (fun q => (piles q : Multiset UInt32)) (Finset.mem_univ p)]

theorem total_of_cons {p : Fin pileCount} {d : UInt32} {rest : List UInt32} (piled : piles p = d :: rest) :
    total piles = d ::ₘ total (update piles p rest) := by
  rw [← total_cons _ p, update_self, update_idem, ← piled, update_eq_self]

end

/-- The disk that a refused step has taken up and not put down. -/
def dropped : KernelError → Multiset UInt32
  | .oversizedDisk d _ _ => {d}
  | .emptyPile _ => 0
  | .emptyList => 0

/-- Towers that show three piles with these disks on them. -/
def Keeps (t : Towers) (disks : Multiset UInt32) : Prop := ∃ piles, t.Shows piles ∧ total piles = disks

/-- A step that keeps the disks, but for the one that it drops when it is refused. -/
abbrev EndsKeeping (disks : Multiset UInt32) (x : Checked (Result α)) : Prop :=
  Ends x (fun _ t => t.Keeps disks) fun e t => ∃ left, t.Keeps left ∧ disks = dropped e + left

theorem ends_moveTop {disks : Multiset UInt32} (kept : t.Keeps disks) (source target : Nat) :
    EndsKeeping disks (moveTop source target t) := by
  obtain ⟨piles, shown, rfl⟩ := kept
  refine ((ends_pop shown source).mono (fun _ _ h => h) ?_).andThen fun i t ⟨p, d, rest, piled, aside⟩ => ?_
  · rintro e t ⟨rfl, shown⟩
    exact ⟨_, ⟨piles, shown, rfl⟩, (zero_add _).symm⟩
  rw [total_of_cons piled]
  refine ((ends_push aside target).mono (fun _ _ h => h) ?_).andThen fun _ t ⟨q, shown⟩ => ?_
  · rintro e t ⟨⟨top, rfl⟩, shown⟩
    exact ⟨_, ⟨_, shown, rfl⟩, (Multiset.singleton_add d _).symm⟩
  cases Checked.succ t.moves with
  | error f => exact ends_fault f
  | ok m => exact ends_done ⟨_, shows_moves shown m, total_cons _ q d⟩

/-- **A move keeps the disks**, or it is refused and has dropped one that does not fit, if any. -/
theorem ends_move : ∀ (n source target : Nat) {t : Towers} {disks : Multiset UInt32}, t.Keeps disks →
    EndsKeeping disks (move n source target t)
  | 0, _, _, _, _, _ => ends_fault _
  | 1, source, target, _, _, kept => ends_moveTop kept source target
  | n + 2, source, target, t, disks, kept => by
    unfold move
    cases otherPile source target with
    | error f => exact ends_fault f
    | ok other =>
      exact (ends_move (n + 1) source other kept).andThen fun _ _ kept =>
        (ends_moveTop kept source target).andThen fun _ _ kept => ends_move (n + 1) other target kept

/-! ## Whatever is left shows three piles -/

/-- Towers that show three piles. -/
def Sound (t : Towers) : Prop := ∃ piles, t.Shows piles

/-- A step that leaves sound towers, done or refused. -/
abbrev EndsSound (x : Checked (Result α)) : Prop := Ends x (fun _ t => t.Sound) fun _ t => t.Sound

theorem EndsSound.sound {x : Checked (Result α)} (h : EndsSound x) {result : Except KernelError α}
    (run : x = .ok (result, t)) : t.Sound := by
  cases result with
  | error e => exact h.of_refused e t run
  | ok a => exact h.of_done a t run

theorem EndsKeeping.endsSound {disks : Multiset UInt32} {x : Checked (Result α)} (h : EndsKeeping disks x) :
    EndsSound x :=
  h.mono (fun _ _ ⟨piles, shown, _⟩ => ⟨piles, shown⟩) fun _ _ ⟨_, ⟨piles, shown, _⟩, _⟩ => ⟨piles, shown⟩

theorem stack_succ (pile n : Nat) (t : Towers) : stack pile (n + 1) t =
    Result.andThen (push { t with disks := t.disks.push ⟨UInt32.ofNat n, none⟩ } t.disks.size pile)
      fun _ t => stack pile n t := by
  simp [stack]

theorem ends_stack (pile : Nat) : ∀ (n : Nat) {t : Towers}, t.Sound → EndsSound (stack pile n t)
  | 0, _, sound => ends_done sound
  | n + 1, t, ⟨piles, shown⟩ => by
    have aside := aside_new shown (UInt32.ofNat n)
    rw [stack_succ]
    exact ((ends_push aside pile).mono (fun _ _ h => h) fun _ _ h => ⟨piles, h.2⟩).andThen
      fun _ _ ⟨_, shown⟩ => ends_stack pile n ⟨_, shown⟩

/-! ## Rows of calls -/

/-- A call that changes the towers. -/
inductive Call where
  /-- Disks of the sizes from 0 to the largest, stacked on a pile. -/
  | build (pile : Nat) (largest : UInt32)
  /-- Some disks moved from a pile to another. -/
  | move (disks : UInt32) (source target : Nat)

/-- What a call answers, and the towers after it. -/
def Call.perform (t : Towers) : Call → Checked (Result Unit)
  | .build pile largest => t.build pile largest
  | .move disks source target => t.move disks.toNat source target

/-- **The towers after a row of calls**; a call that is refused leaves what it leaves, and the next one goes on. -/
def after (calls : List Call) : Checked Towers :=
  calls.foldlM (fun t call => do return (← call.perform t).2) empty

theorem ends_perform (sound : t.Sound) : ∀ call : Call, EndsSound (call.perform t)
  | .build pile largest => ends_stack pile (largest.toNat + 1) sound
  | .move disks source target => by
    obtain ⟨piles, shown⟩ := sound
    exact (ends_move disks.toNat source target ⟨piles, shown, rfl⟩).endsSound

theorem sound_foldlM : ∀ (calls : List Call) {t t' : Towers}, t.Sound →
    calls.foldlM (fun t call => do return (← call.perform t).2) t = .ok t' → t'.Sound
  | [], _, _, sound, run => by
    obtain rfl := Except.ok.inj run
    exact sound
  | call :: calls, t, t', sound, run => by
    rw [List.foldlM_cons] at run
    rcases answer : call.perform t with f | ⟨result, next⟩
    · rw [answer] at run
      cases run
    · rw [answer] at run
      exact sound_foldlM calls ((ends_perform sound call).sound answer) run

/-- **Every row of calls without a fault leaves sound towers.** -/
theorem sound_after {calls : List Call} (reached : after calls = .ok t) : t.Sound :=
  sound_foldlM calls ⟨_, shows_empty⟩ reached

/-- **What no row of calls can break**, refused calls among them: the links of each pile lead through disks of the
arena to an end, no disk is on two piles or twice on one, and the sizes on a pile, which are then read off without a
fault, grow from the top down. -/
theorem after_piled {calls : List Call} (reached : after calls = .ok t) : ∃ on : Fin pileCount → List Nat,
    (∀ p, Linked t.disks (t.piles.get p) (on p)) ∧ (∀ p, ∀ i ∈ on p, i < t.disks.size) ∧
    (∀ p, (on p).Nodup) ∧ (∀ p q, p ≠ q → (on p).Disjoint (on q)) ∧
    ∀ p : Fin pileCount, t.pileSizes p = .ok ((on p).map (sizeAt t.disks)) ∧
      ((on p).map (sizeAt t.disks)).Pairwise (· < ·) := by
  obtain ⟨_, on, holds, -⟩ := sound_after reached
  exact ⟨on, holds.linked, fun p => (holds.linked p).lt_size, holds.nodup, holds.apart,
    fun p => ⟨holds.pileSizes p, holds.ordered p⟩⟩

/-- Two towers, a move that is refused halfway, a pile moved onto itself, and two more refused calls. -/
def troubled : List Call := [.build 0 1, .build 1 1, .move 2 0 1, .move 1 1 1, .build 2 0, .move 1 0 2]

theorem after_troubled : after troubled =
    .ok ⟨#[⟨1, none⟩, ⟨0, none⟩, ⟨1, none⟩, ⟨0, some 2⟩, ⟨0, none⟩], #v[none, some 3, some 1], 2⟩ := by
  decide +kernel

/-- One disk is gone and one was never put down; the others lie in order. -/
theorem after_piled_troubled : ∃ (t : Towers) (on : Fin pileCount → List Nat), after troubled = .ok t ∧
    (∀ p, Linked t.disks (t.piles.get p) (on p)) ∧ (∀ p q, p ≠ q → (on p).Disjoint (on q)) ∧
    t.pileSizes 1 = .ok [0, 1] := by
  obtain ⟨on, linked, -, -, apart, -⟩ := after_piled after_troubled
  exact ⟨_, on, after_troubled, linked, apart, by decide +kernel⟩

end BenchSuite.Towers
