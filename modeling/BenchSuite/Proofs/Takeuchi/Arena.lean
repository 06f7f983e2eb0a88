import Mathlib.Algebra.Group.Nat.Defs
import BenchSuite.Kernel.Takeuchi
/-!
# Lists in an arena

A cell holds the length of the list that starts at it, and links to a cell made before it
(`ListArena.WellFormed`).  So every chain of links ends, and what the arena answers about a list is
decided by its span alone: its values (`values_eq`), its length (`length_eq`), and whether it is shorter
than another (`isShorter_eq`).  Every arena that is made list by list is well formed (`made_wellFormed`).
-/
namespace BenchSuite.ListArena

/-! ## Links and spans -/

/-- A link to a cell of the arena, or none. -/
def Valid (arena : ListArena) (link : Link) : Prop := ∀ i ∈ link, i < arena.elements.size

/-- The length of a list, read off its first cell. -/
def span (arena : ListArena) : Link → Nat
  | none => 0
  | some i => (arena.elements[i]?.map (·.value.toNat)).getD 0

/-- **Cells link backwards and count their list.** -/
structure WellFormed (arena : ListArena) : Prop where
  earlier : ∀ i (h : i < arena.elements.size), ∀ j ∈ arena.elements[i].next, j < i
  counted : ∀ i (h : i < arena.elements.size),
    arena.elements[i].value.toNat = arena.span arena.elements[i].next + 1

def countdown : Nat → List Nat
  | 0 => []
  | n + 1 => (n + 1) :: countdown n

theorem valid_none (arena : ListArena) : arena.Valid none := fun _ h => by cases h

theorem span_some {arena : ListArena} {i : Nat} (h : i < arena.elements.size) :
    arena.span (some i) = arena.elements[i].value.toNat := by
  rw [span, Array.getElem?_eq_getElem h]
  rfl

theorem valid_next {arena : ListArena} (hw : arena.WellFormed) {i : Nat} (h : i < arena.elements.size) :
    arena.Valid arena.elements[i].next := fun j hj => Nat.lt_trans (hw.earlier i h j hj) h

theorem span_next {arena : ListArena} (hw : arena.WellFormed) {i : Nat} (h : i < arena.elements.size) :
    arena.span (some i) = arena.span arena.elements[i].next + 1 := by
  rw [span_some h, hw.counted i h]

/-- A list has at most as many cells as there are up to its first. -/
theorem span_le_index {arena : ListArena} (hw : arena.WellFormed) (i : Nat) (h : i < arena.elements.size) :
    arena.span (some i) ≤ i + 1 := by
  induction i using Nat.strongRecOn with
  | _ i ih =>
    rw [span_next hw h]
    cases hn : arena.elements[i].next with
    | none => simp [span]
    | some j =>
      have hj : j < i := hw.earlier i h j hn
      have := ih j hj (Nat.lt_trans hj h)
      omega

theorem span_le_size {arena : ListArena} (hw : arena.WellFormed) {link : Link} (hl : arena.Valid link) :
    arena.span link ≤ arena.elements.size := by
  cases link with
  | none => exact Nat.zero_le _
  | some i =>
    have hi : i < arena.elements.size := hl i rfl
    exact Nat.le_trans (span_le_index hw i hi) hi

theorem span_eq_zero {arena : ListArena} (hw : arena.WellFormed) {link : Link} (hl : arena.Valid link) :
    arena.span link = 0 ↔ link = none := by
  cases link with
  | none => simp [span]
  | some i =>
    rw [span_next hw (hl i rfl)]
    simp

/-! ## What the arena answers -/

/-- **The rest of a list** is one cell shorter, and that of the empty list is empty. -/
theorem next_eq {arena : ListArena} (hw : arena.WellFormed) {link : Link} (hl : arena.Valid link) :
    ∃ rest, arena.next link = .ok rest ∧ arena.Valid rest ∧ arena.span rest = arena.span link - 1 := by
  cases link with
  | none => exact ⟨none, rfl, hl, rfl⟩
  | some i =>
    have hi : i < arena.elements.size := hl i rfl
    refine ⟨arena.elements[i].next, ?_, valid_next hw hi, ?_⟩
    · rw [next, Checked.get_eq_ok _ hi]
      rfl
    · rw [span_next hw hi, Nat.add_sub_cancel]

theorem valuesFrom_eq {arena : ListArena} (hw : arena.WellFormed) : ∀ (fuel : Nat) (link : Link),
    arena.Valid link → arena.span link ≤ fuel →
      ∃ vs, arena.valuesFrom fuel link = .ok vs ∧ vs.map UInt32.toNat = countdown (arena.span link)
  | 0, none, _, _ => ⟨[], rfl, rfl⟩
  | _ + 1, none, _, _ => ⟨[], rfl, rfl⟩
  | 0, some i, hl, hf => by
    rw [span_next hw (hl i rfl)] at hf
    omega
  | fuel + 1, some i, hl, hf => by
    have hi : i < arena.elements.size := hl i rfl
    have hs := span_next hw hi
    obtain ⟨vs, hvs, hmap⟩ := valuesFrom_eq hw fuel arena.elements[i].next (valid_next hw hi) (by omega)
    refine ⟨arena.elements[i].value :: vs, ?_, ?_⟩
    · rw [valuesFrom, Checked.get_eq_ok _ hi]
      show (do return arena.elements[i].value :: (← arena.valuesFrom fuel arena.elements[i].next)) = _
      rw [hvs]
      rfl
    · rw [List.map_cons, hmap, hw.counted i hi, hs, countdown]

theorem values_eq {arena : ListArena} (hw : arena.WellFormed) {link : Link} (hl : arena.Valid link) :
    ∃ vs, arena.values link = .ok vs ∧ vs.map UInt32.toNat = countdown (arena.span link) :=
  valuesFrom_eq hw arena.elements.size link hl (span_le_size hw hl)

theorem lengthWithin_eq {arena : ListArena} (hw : arena.WellFormed) : ∀ (fuel : Nat) (link : Link),
    arena.Valid link → arena.span link ≤ fuel → arena.lengthWithin fuel link = .ok (arena.span link)
  | 0, none, _, _ => rfl
  | _ + 1, none, _, _ => rfl
  | 0, some i, hl, hf => by
    rw [span_next hw (hl i rfl)] at hf
    omega
  | fuel + 1, some i, hl, hf => by
    have hi : i < arena.elements.size := hl i rfl
    have hs := span_next hw hi
    have rest := lengthWithin_eq hw fuel arena.elements[i].next (valid_next hw hi) (by omega)
    rw [lengthWithin, Checked.get_eq_ok _ hi, Checked.ok_bind, rest, hs, Nat.add_comm]
    rfl

theorem length_eq {arena : ListArena} (hw : arena.WellFormed) {link : Link} (hl : arena.Valid link) :
    arena.length link = .ok (arena.span link) :=
  lengthWithin_eq hw arena.elements.size link hl (span_le_size hw hl)

theorem isShorterWithin_none (arena : ListArena) (fuel : Nat) (x : Link) :
    arena.isShorterWithin fuel x none = .ok false := by
  cases fuel <;> cases x <;> rfl

theorem isShorterWithin_none_some (arena : ListArena) (fuel j : Nat) :
    arena.isShorterWithin fuel none (some j) = .ok true := by
  cases fuel <;> rfl

theorem isShorterWithin_eq {arena : ListArena} (hw : arena.WellFormed) : ∀ (fuel : Nat) (x y : Link),
    arena.Valid x → arena.Valid y → arena.span x ≤ fuel →
      arena.isShorterWithin fuel x y = .ok (decide (arena.span x < arena.span y))
  | fuel, x, none, _, _, _ => by
    rw [isShorterWithin_none]
    rfl
  | fuel, none, some j, _, hy, _ => by
    rw [isShorterWithin_none_some, span_next hw (hy j rfl)]
    simp [span]
  | 0, some i, some _, hx, _, hf => by
    rw [span_next hw (hx i rfl)] at hf
    omega
  | fuel + 1, some i, some j, hx, hy, hf => by
    obtain ⟨x, hx', vx, sx⟩ := next_eq hw hx
    obtain ⟨y, hy', vy, sy⟩ := next_eq hw hy
    have hi := span_next hw (hx i rfl)
    have hj := span_next hw (hy j rfl)
    have hlt : arena.span x < arena.span y ↔ arena.span (some i) < arena.span (some j) := by omega
    rw [isShorterWithin, hx', hy']
    show arena.isShorterWithin fuel x y = _
    rw [isShorterWithin_eq hw fuel x y vx vy (by omega), decide_eq_decide.2 hlt]

theorem isShorter_eq {arena : ListArena} (hw : arena.WellFormed) {x y : Link} (hx : arena.Valid x)
    (hy : arena.Valid y) : arena.isShorter x y = .ok (decide (arena.span x < arena.span y)) :=
  isShorterWithin_eq hw _ x y hx hy (Nat.le_succ_of_le (span_le_size hw hx))

/-! ## Making lists -/

/-- The arena in which lists of the given lengths were made, one after the other. -/
def made (lengths : List UInt32) : ListArena :=
  lengths.foldl (fun arena n => (arena.make n.toNat).2) empty

theorem empty_wellFormed : empty.WellFormed where
  earlier _ h := by cases h
  counted _ h := by cases h

theorem span_push {arena : ListArena} {link : Link} (hl : arena.Valid link) (e : Element) :
    ListArena.span ⟨arena.elements.push e⟩ link = arena.span link := by
  cases link with
  | none => rfl
  | some i =>
    have hi : i < arena.elements.size := hl i rfl
    rw [span, span, Array.getElem?_push_lt hi, Array.getElem?_eq_getElem hi]

theorem span_push_self (arena : ListArena) (e : Element) :
    ListArena.span ⟨arena.elements.push e⟩ (some arena.elements.size) = e.value.toNat := by
  simp [span]

/-- **One cell more**: put in front of a list, with the length that makes, it keeps the arena well formed. -/
theorem wellFormed_push {arena : ListArena} (hw : arena.WellFormed) {link : Link} (hl : arena.Valid link)
    {value : UInt32} (hv : value.toNat = arena.span link + 1) :
    ListArena.WellFormed ⟨arena.elements.push ⟨value, link⟩⟩ where
  earlier i h j hj := by
    by_cases hi : i < arena.elements.size
    · rw [Array.getElem_push_lt hi] at hj
      exact hw.earlier i hi j hj
    · obtain rfl : i = arena.elements.size := by simp at h; omega
      rw [Array.getElem_push_eq] at hj
      exact hl j hj
  counted i h := by
    by_cases hi : i < arena.elements.size
    · rw [Array.getElem_push_lt hi, span_push (valid_next hw hi)]
      exact hw.counted i hi
    · obtain rfl : i = arena.elements.size := by simp at h; omega
      rw [Array.getElem_push_eq, span_push hl]
      exact hv

/-- **A list that is made** has its length, and the arena stays well formed. -/
theorem make_spec {arena : ListArena} (hw : arena.WellFormed) : ∀ (n : Nat), n < 2 ^ 32 →
    (arena.make n).2.WellFormed ∧ (arena.make n).2.Valid (arena.make n).1 ∧
      (arena.make n).2.span (arena.make n).1 = n
  | 0, _ => ⟨hw, valid_none _, rfl⟩
  | n + 1, hn => by
    obtain ⟨hw', hl, hs⟩ := make_spec hw n (by omega)
    have hv : (UInt32.ofNat (n + 1)).toNat = n + 1 := UInt32.toNat_ofNat_of_lt hn
    refine ⟨wellFormed_push hw' hl (by rw [hv, hs]), fun i hi => ?_, ?_⟩
    · obtain rfl : (arena.make n).2.elements.size = i := Option.some.inj hi
      rw [make, Array.size_push]
      exact Nat.lt_succ_self _
    · exact (span_push_self _ _).trans hv

theorem made_wellFormed (lengths : List UInt32) : (made lengths).WellFormed := by
  have grow : ∀ (lengths : List UInt32) (arena : ListArena), arena.WellFormed →
      (lengths.foldl (fun arena n => (arena.make n.toNat).2) arena).WellFormed := by
    intro lengths
    induction lengths with
    | nil => exact fun _ hw => hw
    | cons n lengths ih => exact fun arena hw => ih _ (make_spec hw n.toNat n.toNat_lt).1
  exact grow lengths empty empty_wellFormed

end BenchSuite.ListArena
