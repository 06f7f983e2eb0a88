import Mathlib.Data.List.Nodup
import Mathlib.Data.List.Perm.Subperm
import Mathlib.Logic.Function.Basic
import BenchSuite.Kernel.Towers
/-!
# Piles of disks in an arena

The disks on a pile are those that its links lead to (`Linked`).  The towers hold three piles when no disk is on two
of them and each is ordered, the smallest disk on top (`Holds`); what they show is the sizes alone (`Shows`).  Between
a pop and a push, and after a disk is made, one disk lies aside (`Aside`).  The steps are stated on what is shown: the
arena and its links are opened in this module only.
-/
namespace BenchSuite.Towers

/-- The disks that a chain of links leads to, from the first to the last. -/
inductive Linked (disks : Array Disk) : Option Nat → List Nat → Prop
  | last : Linked disks none []
  | link {i : Nat} {d : Disk} {l : List Nat} :
      disks[i]? = some d → Linked disks d.next l → Linked disks (some i) (i :: l)

/-- The size of a disk in the arena. -/
def sizeAt (disks : Array Disk) (i : Nat) : UInt32 := (disks[i]?.map Disk.size).getD 0

/-- A size that may lie on a pile: it is smaller than the top, if there is one. -/
def Fits (d : UInt32) (pile : List UInt32) : Prop := ∀ top ∈ pile.head?, d < top

/-- **The disks that the towers hold**: the links of each pile lead to its disks, no disk is on two piles, and the
sizes on a pile grow from the top down. -/
structure Holds (t : Towers) (on : Fin pileCount → List Nat) : Prop where
  linked : ∀ p, Linked t.disks t.piles[p.val] (on p)
  apart : ∀ p q, p ≠ q → (on p).Disjoint (on q)
  ordered : ∀ p, ((on p).map (sizeAt t.disks)).Pairwise (· < ·)

/-- **The sizes that the towers show**, pile by pile. -/
def Shows (t : Towers) (piles : Fin pileCount → List UInt32) : Prop :=
  ∃ on, t.Holds on ∧ ∀ p, piles p = (on p).map (sizeAt t.disks)

/-- The towers show piles, and a disk of a size lies aside. -/
def Aside (t : Towers) (piles : Fin pileCount → List UInt32) (i : Nat) (d : UInt32) : Prop :=
  ∃ on, t.Holds on ∧ (∀ p, piles p = (on p).map (sizeAt t.disks)) ∧ i < t.disks.size ∧ (∀ p, i ∉ on p) ∧
    sizeAt t.disks i = d

/-! ## Links and sizes -/

variable {disks : Array Disk} {link : Option Nat} {l : List Nat} {i : Nat} {d : Disk}

theorem sizeAt_of_lt (h : i < disks.size) : sizeAt disks i = disks[i].size := by
  simp [sizeAt, h]

theorem sizeAt_set (h : i < disks.size) (same : d.size = disks[i].size) :
    sizeAt (disks.setIfInBounds i d) = sizeAt disks := by
  funext j
  by_cases hij : i = j
  · subst hij
    simp [sizeAt, h, same]
  · simp [sizeAt, hij]

theorem sizeAt_push {j : Nat} (h : j < disks.size) : sizeAt (disks.push d) j = sizeAt disks j := by
  simp [sizeAt, Array.getElem?_push_lt, h]

namespace Linked

theorem lt_size (h : Linked disks link l) : ∀ j ∈ l, j < disks.size := by
  induction h with
  | last => simp
  | link there _ ih => exact List.forall_mem_cons.2 ⟨(Array.getElem?_eq_some_iff.1 there).1, ih⟩

/-- A chain does not see a change of a disk that it does not lead to. -/
theorem set (h : Linked disks link l) (out : i ∉ l) : Linked (disks.setIfInBounds i d) link l := by
  induction h with
  | last => exact .last
  | link there _ ih =>
    obtain ⟨other, out⟩ := not_or.1 (List.mem_cons.not.1 out)
    exact .link ((Array.getElem?_setIfInBounds_ne other).trans there) (ih out)

theorem push (h : Linked disks link l) : Linked (disks.push d) link l := by
  induction h with
  | last => exact .last
  | link there _ ih =>
    have bound := (Array.getElem?_eq_some_iff.1 there).1
    refine .link ?_ ih
    rw [Array.getElem?_push_lt bound, ← there, Array.getElem?_eq_getElem bound]

/-- **Sizes are read off along a chain**, when there is fuel for all of it. -/
theorem sizesFrom (h : Linked disks link l) : ∀ fuel, l.length ≤ fuel →
    sizesFrom disks fuel link = .ok (l.map (sizeAt disks)) := by
  induction h with
  | last => intro fuel _; cases fuel <;> rfl
  | @link j d l there _ ih =>
    intro fuel enough
    obtain ⟨fuel, rfl⟩ : ∃ n, fuel = n + 1 := ⟨fuel - 1, by simp at enough; omega⟩
    obtain ⟨bound, rfl⟩ := Array.getElem?_eq_some_iff.1 there
    rw [Towers.sizesFrom, Checked.get_eq_ok _ bound, Checked.ok_bind, ih fuel (by simpa using enough), List.map_cons,
      sizeAt_of_lt bound]
    rfl

end Linked

/-! ## What the towers hold and show -/

variable {t : Towers} {on : Fin pileCount → List Nat} {piles : Fin pileCount → List UInt32} {p : Fin pileCount}
  {size : UInt32}

namespace Holds

theorem nodup (h : t.Holds on) (p : Fin pileCount) : (on p).Nodup :=
  List.Nodup.of_map _ ((h.ordered p).imp fun lt => UInt32.ne_of_lt lt)

theorem length_le (h : t.Holds on) (p : Fin pileCount) : (on p).length ≤ t.disks.size := by
  have within : on p ⊆ List.range t.disks.size := fun i hi => List.mem_range.2 ((h.linked p).lt_size i hi)
  simpa using (List.Nodup.subperm (h.nodup p) within).length_le

theorem pileSizes (h : t.Holds on) (p : Fin pileCount) :
    t.pileSizes p = .ok ((on p).map (sizeAt t.disks)) := by
  rw [Towers.pileSizes, Checked.nth_eq_ok _ p.isLt, Checked.ok_bind]
  exact (h.linked p).sizesFrom _ (h.length_le p)

/-- The top disk of a pile, and the links below it. -/
theorem top (h : t.Holds on) {rest : List Nat} (piled : on p = i :: rest) :
    t.piles[p.val] = some i ∧ ∃ bound : i < t.disks.size, Linked t.disks t.disks[i].next rest := by
  have linked := h.linked p
  rw [piled] at linked
  generalize t.piles[p.val] = link at linked
  cases linked with
  | link there below =>
    obtain ⟨bound, rfl⟩ := Array.getElem?_eq_some_iff.1 there
    exact ⟨rfl, bound, below⟩

theorem bottom (h : t.Holds on) (bare : on p = []) : t.piles[p.val] = none := by
  have linked := h.linked p
  rw [bare] at linked
  generalize t.piles[p.val] = link at linked
  cases linked
  rfl

end Holds

theorem Shows.pileSizes (shown : t.Shows piles) (p : Fin pileCount) : t.pileSizes p = .ok (piles p) := by
  obtain ⟨on, h, sizes⟩ := shown
  rw [h.pileSizes, sizes]

theorem Shows.ordered (shown : t.Shows piles) (p : Fin pileCount) : (piles p).Pairwise (· < ·) := by
  obtain ⟨on, h, sizes⟩ := shown
  rw [sizes]
  exact h.ordered p

theorem Aside.shows (h : t.Aside piles i size) : t.Shows piles := by
  obtain ⟨on, holds, sizes, -⟩ := h
  exact ⟨on, holds, sizes⟩

theorem shows_empty : empty.Shows fun _ => [] := by
  refine ⟨fun _ => [], ⟨fun p => ?_, by simp, by simp⟩, by simp⟩
  have none : empty.piles[p.val] = none := by simp [empty]
  rw [none]
  exact .last

/-! ## Taking a disk off and putting one on -/

/-- One pile relinked: its links lead through the changed disk or past it, and those of the other piles never did. -/
theorem Holds.relink (h : t.Holds on) {bound : i < t.disks.size} (same : d.size = t.disks[i].size)
    (linked : Linked (t.disks.setIfInBounds i d) link l) (others : ∀ q, q ≠ p → i ∉ on q)
    (apart : ∀ q, q ≠ p → l.Disjoint (on q)) (ordered : (l.map (sizeAt t.disks)).Pairwise (· < ·)) :
    Holds { t with disks := t.disks.setIfInBounds i d, piles := t.piles.setIfInBounds p.val link }
      (Function.update on p l) where
  linked q := by
    by_cases hq : q = p
    · subst hq
      simpa using linked
    · have other : p.val ≠ q.val := fun e => hq (Fin.ext e.symm)
      simpa [hq, Vector.getElem_setIfInBounds_ne _ other] using (h.linked q).set (others q hq)
  apart q r hqr := by
    by_cases hq : q = p
    · subst hq
      simpa [Ne.symm hqr] using apart r (Ne.symm hqr)
    · by_cases hr : r = p
      · subst hr
        simpa [hq] using List.disjoint_symm (apart q hq)
      · simpa [hq, hr] using h.apart q r hqr
  ordered q := by
    rw [sizeAt_set bound same]
    by_cases hq : q = p
    · subst hq
      simpa using ordered
    · simpa [hq] using h.ordered q

theorem sizes_update {f : Nat → UInt32} (sizes : ∀ q, piles q = (on q).map f) (p : Fin pileCount) (l : List Nat)
    (q : Fin pileCount) : Function.update piles p (l.map f) q = (Function.update on p l q).map f := by
  by_cases hq : q = p
  · subst hq
    simp
  · simp [hq, sizes]

theorem pop_nil (shown : t.Shows piles) (bare : piles p = []) : t.pop p = .ok (.error (.emptyPile p), t) := by
  obtain ⟨on, h, sizes⟩ := shown
  have bare : on p = [] := by simpa [sizes] using bare
  rw [pop, Checked.nth_eq_ok _ p.isLt, Checked.ok_bind, h.bottom bare]
  rfl

/-- **The top disk is taken off** and lies aside. -/
theorem pop_cons {rest : List UInt32} (shown : t.Shows piles) (piled : piles p = size :: rest) :
    ∃ i t', t.pop p = .ok (.ok i, t') ∧ t'.Aside (Function.update piles p rest) i size ∧ t'.moves = t.moves := by
  obtain ⟨on, h, sizes⟩ := shown
  rw [sizes, List.map_eq_cons_iff] at piled
  obtain ⟨i, below, piled, rfl, rfl⟩ := piled
  obtain ⟨top, bound, linked⟩ := h.top piled
  have nodup : i ∉ below := (List.nodup_cons.1 (piled ▸ h.nodup p)).1
  have ordered := h.ordered p
  rw [piled, List.map_cons, List.pairwise_cons] at ordered
  have others : ∀ q, q ≠ p → i ∉ on q := fun q hq => h.apart p q (Ne.symm hq) (by simp [piled])
  have apart : ∀ q, q ≠ p → below.Disjoint (on q) := fun q hq j hj =>
    h.apart p q (Ne.symm hq) (by simp [piled, hj])
  let d : Disk := { t.disks[i] with next := none }
  have same : d.size = t.disks[i].size := rfl
  have holds := h.relink same (linked.set nodup) others apart ordered.2
  refine ⟨i, _, ?_, ⟨_, holds, fun q => ?_, ?_, fun q => ?_, congrFun (sizeAt_set bound same) i⟩, rfl⟩
  · simp only [pop, Checked.nth_eq_ok _ p.isLt, Checked.ok_bind, top, Checked.get_eq_ok _ bound]
    rfl
  · rw [sizeAt_set bound same]
    exact sizes_update sizes p below q
  · simpa using bound
  · by_cases hq : q = p
    · subst hq
      simpa using nodup
    · simpa [hq] using others q hq

theorem fits_or_oversized (size : UInt32) (pile : List UInt32) :
    Fits size pile ∨ ∃ top rest, pile = top :: rest ∧ top ≤ size := by
  cases pile with
  | nil => exact .inl (by simp [Fits])
  | cons top rest =>
    rcases UInt32.lt_or_le size top with lt | le
    · exact .inl (by simpa [Fits] using lt)
    · exact .inr ⟨top, rest, rfl, le⟩

theorem pairwise_of_fits {pile : List UInt32} (fits : Fits size pile) (ordered : pile.Pairwise (· < ·)) :
    (size :: pile).Pairwise (· < ·) := by
  refine List.pairwise_cons.2 ⟨?_, ordered⟩
  cases pile with
  | nil => simp
  | cons top rest =>
    have first : size < top := fits top rfl
    exact List.forall_mem_cons.2 ⟨first, fun d hd => UInt32.lt_trans first (List.rel_of_pairwise_cons ordered hd)⟩

theorem lay_eq (bound : i < t.disks.size) (p : Fin pileCount) : t.lay i p = .ok { t with
    disks := t.disks.setIfInBounds i { t.disks[i] with next := t.piles[p.val] }
    piles := t.piles.setIfInBounds p.val (some i) } := by
  simp only [lay, Checked.nth_eq_ok _ p.isLt, Checked.ok_bind, Checked.get_eq_ok _ bound]
  rfl

/-- **A disk that fits is put on top.** -/
theorem push_fits (aside : t.Aside piles i size) (fits : Fits size (piles p)) :
    ∃ t', t.push i p = .ok (.ok (), t') ∧ t'.Shows (Function.update piles p (size :: piles p)) ∧
      t'.moves = t.moves := by
  obtain ⟨on, h, sizes, bound, free, rfl⟩ := aside
  rw [sizes] at fits ⊢
  let d : Disk := { t.disks[i] with next := t.piles[p.val] }
  have same : d.size = t.disks[i].size := rfl
  have linked : Linked (t.disks.setIfInBounds i d) (some i) (i :: on p) := by
    refine .link (d := d) ?_ ((h.linked p).set (free p))
    rw [Array.getElem?_setIfInBounds_self_of_lt bound]
  have apart : ∀ q, q ≠ p → (i :: on p).Disjoint (on q) := fun q hq =>
    List.disjoint_cons_left.2 ⟨free q, h.apart p q (Ne.symm hq)⟩
  have holds := h.relink same linked (fun q _ => free q) apart (pairwise_of_fits fits (h.ordered p))
  have laid : t.push i p = do return (.ok (), ← t.lay i p) := by
    simp only [push, Checked.nth_eq_ok _ p.isLt, Checked.ok_bind]
    cases piled : on p with
    | nil => rw [h.bottom piled]
    | cons top rest =>
      obtain ⟨link, topBound, -⟩ := h.top piled
      have smaller : ¬ t.disks[top].size ≤ t.disks[i].size := by
        rw [← sizeAt_of_lt bound, ← sizeAt_of_lt topBound, UInt32.not_le]
        exact fits _ (by simp [piled])
      simp only [link, Checked.get_eq_ok _ bound, Checked.get_eq_ok _ topBound, Checked.ok_bind, if_neg smaller]
  refine ⟨_, ?_, ⟨_, holds, fun q => ?_⟩, rfl⟩
  · rw [laid, lay_eq bound]
    rfl
  · rw [sizeAt_set bound same]
    exact sizes_update sizes p (i :: on p) q

/-- **A disk that does not fit stays aside.** -/
theorem push_oversized (aside : t.Aside piles i size) {top : UInt32} {rest : List UInt32}
    (piled : piles p = top :: rest) (oversized : top ≤ size) : t.push i p = .ok (.error (.oversizedDisk size top p), t) := by
  obtain ⟨on, h, sizes, bound, -, rfl⟩ := aside
  rw [sizes, List.map_eq_cons_iff] at piled
  obtain ⟨j, below, piled, rfl, -⟩ := piled
  obtain ⟨link, topBound, -⟩ := h.top piled
  rw [sizeAt_of_lt bound, sizeAt_of_lt topBound] at oversized ⊢
  simp only [push, Checked.nth_eq_ok _ p.isLt, Checked.ok_bind, link, Checked.get_eq_ok _ bound,
    Checked.get_eq_ok _ topBound, if_pos oversized]
  rfl

theorem aside_new (shown : t.Shows piles) (size : UInt32) :
    Aside { t with disks := t.disks.push ⟨size, none⟩ } piles t.disks.size size := by
  obtain ⟨on, h, sizes⟩ := shown
  have old : ∀ p, (on p).map (sizeAt (t.disks.push ⟨size, none⟩)) = (on p).map (sizeAt t.disks) := fun p =>
    List.map_congr_left fun j hj => sizeAt_push ((h.linked p).lt_size j hj)
  refine ⟨on, ⟨fun p => (h.linked p).push, h.apart, fun p => ?_⟩, fun p => ?_, by simp, fun p there => ?_, ?_⟩
  · rw [old]
    exact h.ordered p
  · rw [old, sizes]
  · exact Nat.lt_irrefl _ ((h.linked p).lt_size _ there)
  · simp [sizeAt]

end BenchSuite.Towers
