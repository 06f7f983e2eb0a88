import BenchSuite.Proofs.Takeuchi.Arena
/-!
# Walks along links

A walk follows the links of a list to its end, and there is just one (`Walk.unique`).  A cell that is made later
lies on no walk that was there before it (`Walk.make`).  So of the lists that are held while others are made, each
keeps its values and its length (`lists_last`).
-/
namespace BenchSuite.ListArena

/-- **A chain of links that ends**, and the cells along it. -/
inductive Walk (arena : ListArena) : Link → List Element → Prop
  | stop : Walk arena none []
  | step {i : Nat} {e : Element} {es : List Element} : arena.elements[i]? = some e → Walk arena e.next es →
      Walk arena (some i) (e :: es)

variable {arena : ListArena} {link : Link} {es : List Element}

namespace Walk

theorem unique (h : arena.Walk link es) : ∀ {es' : List Element}, arena.Walk link es' → es' = es := by
  induction h with
  | stop =>
    rintro _ ⟨⟩
    rfl
  | step here _ ih =>
    intro es' h'
    cases h' with
    | step here' rest' =>
      obtain rfl := Option.some.inj (here.symm.trans here')
      rw [ih rest']

/-- **Every chain of links ends**, since links go backwards. -/
theorem exists_of_valid (hw : arena.WellFormed) (hl : arena.Valid link) : ∃ es, arena.Walk link es := by
  cases link with
  | none => exact ⟨[], .stop⟩
  | some i =>
    have hi : i < arena.elements.size := hl i rfl
    induction i using Nat.strongRecOn with
    | _ i ih =>
      have here : arena.elements[i]? = some arena.elements[i] := Array.getElem?_eq_getElem hi
      cases hn : arena.elements[i].next with
      | none => exact ⟨[_], .step here (hn ▸ .stop)⟩
      | some j =>
        have hj : j < arena.elements.size := valid_next hw hi j hn
        obtain ⟨es, rest⟩ := ih j (hw.earlier i hi j hn) (fun _ h => Option.some.inj h ▸ hj) hj
        exact ⟨_ :: es, .step here (hn ▸ rest)⟩

theorem length_eq_span (hw : arena.WellFormed) (h : arena.Walk link es) : es.length = arena.span link := by
  induction h with
  | stop => rfl
  | @step i e es here _ ih =>
    obtain ⟨hi, rfl⟩ := Array.getElem?_eq_some_iff.1 here
    rw [List.length_cons, ih, span_next hw hi]

theorem valuesFrom_eq (h : arena.Walk link es) : ∀ {fuel : Nat}, es.length ≤ fuel →
    arena.valuesFrom fuel link = .ok (es.map (·.value)) := by
  induction h with
  | stop =>
    intro fuel _
    cases fuel <;> rfl
  | @step i e es here _ ih =>
    intro fuel hf
    obtain ⟨hi, rfl⟩ := Array.getElem?_eq_some_iff.1 here
    cases fuel with
    | zero => cases hf
    | succ fuel =>
      rw [valuesFrom, Checked.get_eq_ok _ hi, Checked.ok_bind, ih (Nat.le_of_succ_le_succ hf)]
      rfl

/-- **The values of a list** are those along its walk. -/
theorem values_eq (hw : arena.WellFormed) (hl : arena.Valid link) (h : arena.Walk link es) :
    arena.values link = .ok (es.map (·.value)) :=
  h.valuesFrom_eq (h.length_eq_span hw ▸ span_le_size hw hl)

theorem length_eq (hw : arena.WellFormed) (hl : arena.Valid link) (h : arena.Walk link es) :
    arena.length link = .ok es.length := by
  rw [h.length_eq_span hw, ListArena.length_eq hw hl]

/-! ## Cells that are made later -/

theorem push (h : arena.Walk link es) (e : Element) : Walk ⟨arena.elements.push e⟩ link es := by
  induction h with
  | stop => exact .stop
  | step here _ ih =>
    obtain ⟨hi, rfl⟩ := Array.getElem?_eq_some_iff.1 here
    exact .step (by rw [Array.getElem?_push_lt hi]) ih

theorem make (h : arena.Walk link es) : ∀ n : Nat, (arena.make n).2.Walk link es
  | 0 => h
  | n + 1 => (h.make n).push _

end Walk

theorem size_le_make (arena : ListArena) : ∀ n : Nat, arena.elements.size ≤ (arena.make n).2.elements.size
  | 0 => Nat.le_refl _
  | n + 1 => by
    rw [ListArena.make, Array.size_push]
    exact Nat.le_succ_of_le (size_le_make arena n)

theorem Valid.make (hl : arena.Valid link) (n : Nat) : (arena.make n).2.Valid link := fun i hi =>
  Nat.lt_of_lt_of_le (hl i hi) (size_le_make arena n)

theorem make_eq_none_iff (arena : ListArena) (n : Nat) : (arena.make n).1 = none ↔ n = 0 := by
  cases n with
  | zero => exact ⟨fun _ => rfl, fun _ => rfl⟩
  | succ n => exact ⟨(nomatch ·), (nomatch ·)⟩

/-- **Lists last.**  In every arena made list by list, each list ends after as many cells as its length says, and its
values are those of these cells; one list is shorter than another just when its length is less.  A further list counts
down from the number it is made for, and leaves every list that was there with its values and its length. -/
theorem lists_last (lengths : List UInt32) :
    (∀ x, (made lengths).Valid x → ∃ es, (∀ es', (made lengths).Walk x es' ↔ es' = es) ∧
      (made lengths).values x = .ok (es.map (·.value)) ∧ (made lengths).length x = .ok es.length) ∧
    (∀ x y, (made lengths).Valid x → (made lengths).Valid y → ∃ a b, (made lengths).length x = .ok a ∧
      (made lengths).length y = .ok b ∧ (made lengths).isShorter x y = .ok (decide (a < b))) ∧
    ∀ n : UInt32,
      let link := ((made lengths).make n.toNat).1
      let later := ((made lengths).make n.toNat).2
      later = made (lengths ++ [n]) ∧ later.Valid link ∧ (link = none ↔ n = 0) ∧
      (∃ vs, later.values link = .ok vs ∧ vs.map UInt32.toNat = countdown n.toNat) ∧
      ∀ x, (made lengths).Valid x → later.Valid x ∧ later.values x = (made lengths).values x ∧
        later.length x = (made lengths).length x := by
  have hw := made_wellFormed lengths
  refine ⟨fun x hx => ?_, fun x y hx hy => ?_, fun n => ?_⟩
  · obtain ⟨es, walk⟩ := Walk.exists_of_valid hw hx
    refine ⟨es, fun es' => ⟨walk.unique, ?_⟩, walk.values_eq hw hx, walk.length_eq hw hx⟩
    rintro rfl
    exact walk
  · exact ⟨_, _, ListArena.length_eq hw hx, ListArena.length_eq hw hy, isShorter_eq hw hx hy⟩
  · intro link later
    obtain ⟨hw', hl, hs⟩ := make_spec hw n.toNat n.toNat_lt
    obtain ⟨vs, hvs, counts⟩ := ListArena.values_eq hw' hl
    rw [hs] at counts
    refine ⟨?_, hl, ?_, ⟨vs, hvs, counts⟩, fun x hx => ?_⟩
    · rw [made, List.foldl_append]
      rfl
    · rw [← UInt32.toNat_inj]
      exact make_eq_none_iff (made lengths) n.toNat
    · obtain ⟨es, walk⟩ := Walk.exists_of_valid hw hx
      have walk' : later.Walk x es := walk.make n.toNat
      exact ⟨hx.make _, (walk'.values_eq hw' (hx.make _)).trans (walk.values_eq hw hx).symm,
        (walk'.length_eq hw' (hx.make _)).trans (walk.length_eq hw hx).symm⟩

/-- A link into the middle of a list: it is shorter than the other list, and both are as they were when a third list
has been made. -/
theorem lists_last_five_two :
    let arena := made [5, 2]
    arena.Valid (some 3) ∧ arena.Valid (some 5) ∧ arena.Valid (some 6) ∧
      arena.isShorter (some 6) (some 3) = .ok true ∧ arena.isShorter (some 3) (some 5) = .ok false ∧
      (∃ es, arena.Walk (some 3) es ∧ es.length = 4) ∧
      (arena.make 3).2.values (some 3) = .ok [4, 3, 2, 1] ∧ (arena.make 3).2.length (some 6) = .ok 2 := by
  intro arena
  have hx : arena.Valid (some 3) := fun i hi => by cases hi; decide
  have hy : arena.Valid (some 5) := fun i hi => by cases hi; decide
  have hz : arena.Valid (some 6) := fun i hi => by cases hi; decide
  obtain ⟨walks, shorter, later⟩ := lists_last [5, 2]
  obtain ⟨-, -, -, -, kept⟩ := later 3
  refine ⟨hx, hy, hz, ?_, ?_, ?_, ?_, ?_⟩
  · obtain ⟨a, b, ha, hb, same⟩ := shorter _ _ hz hx
    obtain rfl : 2 = a := Except.ok.inj ha
    obtain rfl : 4 = b := Except.ok.inj hb
    exact same
  · obtain ⟨a, b, ha, hb, same⟩ := shorter _ _ hx hy
    obtain rfl : 4 = a := Except.ok.inj ha
    obtain rfl : 1 = b := Except.ok.inj hb
    exact same
  · obtain ⟨es, walk, -, length⟩ := walks _ hx
    exact ⟨es, (walk es).2 rfl, (Except.ok.inj length).symm⟩
  · exact (kept _ hx).2.1
  · exact (kept _ hz).2.2

end BenchSuite.ListArena
