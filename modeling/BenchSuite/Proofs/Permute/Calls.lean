import Mathlib.Tactic.Ring
import BenchSuite.Kernel.Permute
import BenchSuite.Proofs.Counter
/-!
# The calls of a walk

A walk does nothing but enter its calls, one after the other, and put every entry back that it exchanged (`walk_eq`).
The calls are found without the walk: each is said by how many entries it rearranges and by the array it finds (`calls`).
What is done on entering them is a parameter, so whatever is to be known of a walk is read off this list; counting them
gives the counter of a permuter (`permute_restores`).
-/
namespace BenchSuite.Permuter

variable {σ : Type} {enter : Nat → Array Nat → σ → Checked σ} {values : Array Nat} {s : σ} {i n : Nat}

/-- **The calls of a walk**, in order: how many entries each rearranges, and the array it finds. -/
def calls : Nat → Array Nat → List (Nat × Array Nat)
  | 0, values => [(0, values)]
  | n + 1, values => (n + 1, values) :: (calls n values ++
      (List.range (n + 1)).reverse.flatMap fun i => calls n (values.swapIfInBounds n i))

def entered (enter : Nat → Array Nat → σ → Checked σ) (calls : List (Nat × Array Nat)) (s : σ) : Checked σ :=
  calls.foldlM (fun s call => enter call.1 call.2 s) s

/-- One turn of the loop of a walk: an entry takes the last place while the others are rearranged. -/
def turn (enter : Nat → Array Nat → σ → Checked σ) (n : Nat) (state : Array Nat × σ) (i : Nat) :
    Checked (Array Nat × σ) := do
  let values ← swapEntries state.1 n i
  let (values, s) ← walk enter n (values, state.2)
  return (← swapEntries values n i, s)

theorem walk_succ : walk enter (n + 1) (values, s) = enter (n + 1) values s >>= fun s =>
    walk enter n (values, s) >>= (List.range (n + 1)).reverse.foldlM (turn enter n) := rfl

theorem entered_cons (call : Nat × Array Nat) (rest : List (Nat × Array Nat)) :
    entered enter (call :: rest) s = enter call.1 call.2 s >>= entered enter rest := List.foldlM_cons

theorem entered_append (first rest : List (Nat × Array Nat)) :
    entered enter (first ++ rest) s = entered enter first s >>= entered enter rest := List.foldlM_append

/-! ## Exchanging two entries and back -/

theorem swapEntries_eq (within : n < values.size) (below : i < values.size) :
    swapEntries values n i = .ok (values.swapIfInBounds n i) := by
  simp [swapEntries, Array.swapIfInBounds, within, below]

theorem swapEntries_back (within : n < values.size) (below : i < values.size) :
    swapEntries (values.swapIfInBounds n i) n i = .ok values := by
  simp [swapEntries, Array.swapIfInBounds, within, below]

theorem swapEntries_outside (outside : values.size ≤ n) : swapEntries values n i = .error .outOfRange := by
  simp [swapEntries, Nat.not_lt.2 outside]

/-! ## Walks -/

theorem mem_places : i ∈ (List.range (n + 1)).reverse ↔ i ≤ n := by
  rw [List.mem_reverse, List.mem_range, Nat.lt_succ_iff]

theorem sum_places (n m : Nat) : ((List.range (n + 1)).reverse.map fun _ => m).sum = (n + 1) * m := by
  rw [List.map_const', List.sum_replicate_nat, List.length_reverse, List.length_range]

/-- **The turns of the loop**, each of which starts from the array that the loop started from. -/
theorem turns_eq (within : n < values.size)
    (inner : ∀ i < values.size, ∀ s, walk enter n (values.swapIfInBounds n i, s) =
      (entered enter (calls n (values.swapIfInBounds n i)) s).map (values.swapIfInBounds n i, ·)) :
    ∀ (places : List Nat) (s : σ), (∀ i ∈ places, i < values.size) → places.foldlM (turn enter n) (values, s) =
      (entered enter (places.flatMap fun i => calls n (values.swapIfInBounds n i)) s).map (values, ·)
  | [], _, _ => rfl
  | i :: places, s, below => by
    obtain ⟨first, rest⟩ := List.forall_mem_cons.1 below
    have one : turn enter n (values, s) i =
        (entered enter (calls n (values.swapIfInBounds n i)) s).map (values, ·) := by
      simp only [turn, swapEntries_eq within first, Checked.ok_bind, inner i first s]
      cases entered enter (calls n (values.swapIfInBounds n i)) s with
      | error fault => rfl
      | ok s' => simp only [Except.map, Checked.ok_bind, swapEntries_back within first]; rfl
    rw [List.foldlM_cons, one, List.flatMap_cons, entered_append]
    cases entered enter (calls n (values.swapIfInBounds n i)) s with
    | error fault => rfl
    | ok s' => exact turns_eq within inner places s' rest

/-- **A walk enters its calls and leaves the array as it was.** -/
theorem walk_eq : ∀ {n : Nat} {values : Array Nat} {s : σ}, n ≤ values.size →
    walk enter n (values, s) = (entered enter (calls n values) s).map (values, ·)
  | 0, values, s, _ => by
    rw [calls, entered_cons, walk]
    cases enter 0 values s <;> rfl
  | n + 1, values, s, within => by
    have inner : ∀ i < values.size, ∀ s, walk enter n (values.swapIfInBounds n i, s) =
        (entered enter (calls n (values.swapIfInBounds n i)) s).map (values.swapIfInBounds n i, ·) :=
      fun i _ s => walk_eq (by rw [Array.size_swapIfInBounds]; omega)
    have places : ∀ i ∈ (List.range (n + 1)).reverse, i < values.size := fun i place =>
      Nat.lt_of_le_of_lt (mem_places.1 place) within
    rw [walk_succ, calls, entered_cons]
    cases enter (n + 1) values s with
    | error fault => rfl
    | ok s =>
      rw [Checked.ok_bind, Checked.ok_bind, walk_eq (by omega), entered_append]
      cases entered enter (calls n values) s with
      | error fault => rfl
      | ok s => exact turns_eq within inner _ s places

/-- The calls of a walk over some entries more than there are, up to the exchange that fails. -/
def callsBeyond (values : Array Nat) : Nat → List (Nat × Array Nat)
  | 0 => calls values.size values
  | more + 1 => (values.size + (more + 1), values) :: callsBeyond values more

/-- **A walk over more entries than there are** comes to an exchange with the first of them that is missing. -/
theorem walk_beyond : ∀ {more : Nat} {s : σ}, walk enter (values.size + (more + 1)) (values, s) =
    entered enter (callsBeyond values (more + 1)) s >>= fun _ => .error .outOfRange
  | 0, s => by
    -- the loop goes from the last place down, and its first turn wants the entry that is missing
    have fails (s : σ) : (List.range (values.size + 1)).reverse.foldlM (turn enter values.size) (values, s) =
        .error .outOfRange := by
      rw [List.range_succ, List.reverse_concat, List.foldlM_cons, turn, swapEntries_outside le_rfl]
      rfl
    rw [walk_succ, callsBeyond, callsBeyond, entered_cons]
    cases enter (values.size + 1) values s with
    | error fault => rfl
    | ok s =>
      rw [Checked.ok_bind, Checked.ok_bind, walk_eq le_rfl]
      cases entered enter (calls values.size values) s with
      | error fault => rfl
      | ok s => exact fails s
  | more + 1, s => by
    rw [← Nat.add_assoc, walk_succ, callsBeyond, entered_cons, Nat.add_assoc]
    cases enter (values.size + (more + 1) + 1) values s with
    | error fault => rfl
    | ok s =>
      rw [Checked.ok_bind, Checked.ok_bind, walk_beyond]
      cases entered enter (callsBeyond values (more + 1)) s <;> rfl

/-! ## Counting the calls -/

/-- **How many calls a walk makes**: one, and then one walk over the other entries for each of them and one before. -/
def callCount : Nat → Nat
  | 0 => 1
  | n + 1 => 1 + (n + 2) * callCount n

theorem length_calls : ∀ (n : Nat) (values : Array Nat), (calls n values).length = callCount n
  | 0, _ => rfl
  | n + 1, values => by
    simp only [calls, List.length_cons, List.length_append, List.length_flatMap, length_calls n, sum_places, callCount]
    ring

example : callCount 6 = 8660 := rfl

theorem length_callsBeyond : ∀ more, (callsBeyond values more).length = more + callCount values.size
  | 0 => by rw [callsBeyond, length_calls, Nat.zero_add]
  | more + 1 => by rw [callsBeyond, List.length_cons, length_callsBeyond more, Nat.add_right_comm]

theorem entered_count (calls : List (Nat × Array Nat)) (m : Nat) :
    (counted m >>= entered (fun _ _ count => Checked.succ count) calls) = counted (m + calls.length) := by
  induction calls generalizing m with
  | nil => exact bind_pure _
  | cons call rest ih =>
    have first : (counted m >>= entered (fun _ _ count => Checked.succ count) (call :: rest)) =
        (counted m >>= Checked.succ) >>= entered (fun _ _ count => Checked.succ count) rest := by
      rw [bind_assoc]
      rfl
    rw [first, counted_succ, ih, List.length_cons, Nat.add_right_comm, Nat.add_assoc]

theorem permute_within (p : Permuter) (within : n ≤ p.values.size) :
    p.permute n = (counted (p.count.toNat + callCount n)).map (Permuter.mk p.values) := by
  have count := entered_count (calls n p.values) p.count.toNat
  rw [counted_toNat, Checked.ok_bind, length_calls] at count
  rw [permute, walk_eq within, count]
  cases counted (p.count.toNat + callCount n) <;> rfl

theorem permute_beyond (p : Permuter) (more : Nat) : p.permute (p.values.size + (more + 1)) =
    counted (p.count.toNat + (more + 1 + callCount p.values.size)) >>= fun _ => .error .outOfRange := by
  have count := entered_count (callsBeyond p.values (more + 1)) p.count.toNat
  rw [counted_toNat, Checked.ok_bind, length_callsBeyond] at count
  rw [permute, walk_beyond, count]
  cases counted (p.count.toNat + (more + 1 + callCount p.values.size)) <;> rfl

/-- **Permuting leaves the array as it was and counts its calls**, for any array and any number of its entries; the counter
is what can fail, when it has no room for all calls.  With more entries than there are, permuting always fails: at the
first entry that is missing, if the counter has room for the calls up to there. -/
theorem permute_restores (p : Permuter) (n : Nat) :
    (n ≤ p.values.size → p.count.toNat + callCount n < UInt64.size →
      ∃ count, p.permute n = .ok ⟨p.values, count⟩ ∧ count.toNat = p.count.toNat + callCount n) ∧
    (n ≤ p.values.size → UInt64.size ≤ p.count.toNat + callCount n → p.permute n = .error .overflow) ∧
    (p.values.size < n → p.permute n = .error
      (if p.count.toNat + (n - p.values.size + callCount p.values.size) < UInt64.size then .outOfRange else .overflow)) := by
  refine ⟨fun within room => ?_, fun within full => ?_, fun beyond => ?_⟩
  · obtain ⟨count, enough, count_eq⟩ := counted_of_lt room
    exact ⟨count, by rw [permute_within p within, enough]; rfl, count_eq⟩
  · rw [permute_within p within, counted, if_neg (Nat.not_lt.2 full)]
    rfl
  · obtain ⟨more, rfl⟩ : ∃ more, n = p.values.size + (more + 1) := ⟨n - p.values.size - 1, by omega⟩
    rw [permute_beyond, Nat.add_sub_cancel_left, counted]
    split <;> rfl

/-- Three of four entries, two of them alike, are back where they were after 41 calls, and five of four are too many. -/
theorem permute_restores_four : (3 ≤ 4 ∧ 7 + callCount 3 < UInt64.size ∧ 4 < 5) ∧
    (∃ count, permute 3 ⟨#[8, 6, 8, 2], 7⟩ = .ok ⟨#[8, 6, 8, 2], count⟩ ∧ count.toNat = 7 + 41) ∧
    permute 5 ⟨#[8, 6, 8, 2], 7⟩ = .error .outOfRange :=
  ⟨by decide, (permute_restores ⟨#[8, 6, 8, 2], 7⟩ 3).1 (by decide) (by decide),
    (permute_restores ⟨#[8, 6, 8, 2], 7⟩ 5).2.2 (by decide)⟩

end BenchSuite.Permuter
