/-!
# Faults and checked arithmetic

A kernel may index an array or do arithmetic at a fixed width.  A step that would leave an array or
a width has no value: it ends the whole program.  Such an end is a `Fault`, and it is kept apart from
the errors of the domain, after which the program goes on.
-/
namespace BenchSuite

/-- Why a computation stops without an answer of any kind. -/
inductive Fault where
  /-- An integer left the range of its width. -/
  | overflow
  /-- An index was not below the length. -/
  | outOfRange
  /-- A condition that the program relies on did not hold. -/
  | assertion
deriving DecidableEq, Repr

/-- A value, or the fault that prevented it. -/
abbrev Checked := Except Fault

/-- A computation with two parts that comes to a value. -/
theorem except_bind_ok {ε α β : Type} {x : Except ε α} {f : α → Except ε β} {b : β} (h : x >>= f = .ok b) :
    ∃ a, x = .ok a ∧ f a = .ok b := by
  cases x with
  | error e => cases h
  | ok a => exact ⟨a, rfl, h⟩

theorem except_return_isOk_iff {ε α β : Type} {x : Except ε α} {f : α → β} :
    (∃ b, (do return f (← x)) = .ok b) ↔ ∃ a, x = .ok a := by
  constructor
  · rintro ⟨b, h⟩
    obtain ⟨a, ha, -⟩ := except_bind_ok h
    exact ⟨a, ha⟩
  · rintro ⟨a, rfl⟩
    exact ⟨f a, rfl⟩

theorem except_map_ok {ε α β : Type} {x : Except ε α} {f : α → β} {b : β} (h : x.map f = .ok b) :
    ∃ a, x = .ok a ∧ f a = b := by
  cases x with
  | error e => cases h
  | ok a => exact ⟨a, rfl, Except.ok.inj h⟩

namespace Checked

/-- **One more**, unless the counter is full. -/
def succ (n : UInt64) : Checked UInt64 :=
  if n.toNat + 1 < UInt64.size then .ok (n + 1) else .error .overflow

/-- **Difference of two counts**, which may not be negative. -/
def sub (a b : Nat) : Checked Nat :=
  if b ≤ a then .ok (a - b) else .error .overflow

/-- **A signed word**, unless the number does not fit into it. -/
def int32 (n : Int) : Checked Int32 :=
  if Int32.minValue.toInt ≤ n ∧ n ≤ Int32.maxValue.toInt then .ok (Int32.ofInt n) else .error .overflow

/-- **Sum of two unsigned words.** -/
def addWord (a b : UInt32) : Checked UInt32 :=
  if a.toNat + b.toNat < UInt32.size then .ok (a + b) else .error .overflow

/-- Difference of two unsigned words, which may not be negative. -/
def subWord (a b : UInt32) : Checked UInt32 := if b ≤ a then .ok (a - b) else .error .overflow

/-- **A word moved up by some bits**, fewer than it has; the bits above are dropped. -/
def shiftWord (a n : UInt32) : Checked UInt32 := if n < 32 then .ok (a <<< n) else .error .overflow

/-- Sum of two signed words. -/
def add32 (a b : Int32) : Checked Int32 := int32 (a.toInt + b.toInt)

/-- Negation of a signed word; the lowest one has none. -/
def neg32 (a : Int32) : Checked Int32 := int32 (-a.toInt)

/-- Absolute value of a signed word; the lowest one has none. -/
def abs32 (a : Int32) : Checked Int32 := int32 a.toInt.natAbs

/-- **The element at an index**, which must exist. -/
def get (xs : Array α) (i : Nat) : Checked α :=
  if h : i < xs.size then .ok xs[i] else .error .outOfRange

/-- **An array with one element replaced**; the index must exist. -/
def replace (xs : Array α) (i : Nat) (x : α) : Checked (Array α) :=
  if h : i < xs.size then .ok (xs.set i x) else .error .outOfRange

/-- **The element at an index** of a vector, which must exist. -/
def nth (xs : Vector α n) (i : Nat) : Checked α :=
  if h : i < n then .ok xs[i] else .error .outOfRange

/-- **A vector with one element replaced**; the index must exist. -/
def put (xs : Vector α n) (i : Nat) (x : α) : Checked (Vector α n) :=
  if h : i < n then .ok (xs.set i x) else .error .outOfRange

/-- **A vector with the elements from one index up to another replaced**; the range must lie in it. -/
def fill (xs : Vector α n) (start stop : Nat) (x : α) : Checked (Vector α n) :=
  if start ≤ stop ∧ stop ≤ n then
    .ok (Vector.ofFn fun i => if start ≤ i.val ∧ i.val < stop then x else xs[i])
  else .error .outOfRange

@[simp] theorem ok_bind {α β : Type} (a : α) (f : α → Checked β) : (Except.ok a >>= f : Checked β) = f a := rfl

theorem addWord_ofNat {a b : Nat} (h : a + b < UInt32.size) :
    addWord (.ofNat a) (.ofNat b) = .ok (.ofNat (a + b)) := by
  rw [addWord, UInt32.toNat_ofNat_of_lt' (by omega), UInt32.toNat_ofNat_of_lt' (by omega), if_pos h, UInt32.ofNat_add]

theorem subWord_ofNat {a b : Nat} (h : b ≤ a) (ha : a < UInt32.size) :
    subWord (.ofNat a) (.ofNat b) = .ok (.ofNat (a - b)) := by
  rw [subWord, if_pos ((UInt32.ofNat_le_iff_le (by omega) ha).2 h), UInt32.ofNat_sub h]

theorem shiftWord_ofNat (a : Nat) {n : Nat} (h : n < 32) :
    shiftWord (.ofNat a) (.ofNat n) = .ok (.ofNat (a <<< n)) := by
  have less : UInt32.ofNat n < 32 := (UInt32.ofNat_lt_iff_lt (Nat.lt_trans h (by decide)) (by decide)).2 h
  rw [shiftWord, if_pos less, UInt32.ofNat_shiftLeft a n h]

theorem get_eq_ok (xs : Array α) {i : Nat} (h : i < xs.size) : get xs i = .ok xs[i] := by
  simp [get, h]

theorem replace_eq_ok (xs : Array α) {i : Nat} (h : i < xs.size) (x : α) :
    replace xs i x = .ok (xs.set i x) := by
  simp [replace, h]

theorem nth_eq_ok (xs : Vector α n) {i : Nat} (h : i < n) : nth xs i = .ok xs[i] := by
  simp [nth, h]

theorem put_eq_ok (xs : Vector α n) {i : Nat} (h : i < n) (x : α) :
    put xs i x = .ok (xs.set i x) := by
  simp [put, h]

theorem put_eq_setIfInBounds (xs : Vector α n) {i : Nat} (h : i < n) (x : α) :
    put xs i x = .ok (xs.setIfInBounds i x) := by
  rw [put_eq_ok xs h]
  congr 1
  ext j hj
  simp [Vector.getElem_set, Vector.getElem_setIfInBounds]

theorem put_isOk_iff {xs : Vector α n} {i : Nat} {x : α} : (∃ ys, put xs i x = .ok ys) ↔ i < n := by
  unfold put; split <;> simp [*]

/-- A fold meets no fault when no step does from where `P` holds, `P` being about all that was taken so far. -/
theorem foldlM_ok {σ β γ : Type} {f : σ → β → Checked σ} (taken : β → List γ) (P : List γ → σ → Prop)
    (one : ∀ m s b, P m s → ∃ s', f s b = .ok s' ∧ P (m ++ taken b) s') : ∀ (bs : List β) (m : List γ) (s : σ),
    P m s → ∃ s', bs.foldlM f s = .ok s' ∧ P (m ++ bs.flatMap taken) s'
  | [], m, s, h => ⟨s, rfl, by rwa [List.flatMap_nil, List.append_nil]⟩
  | b :: bs, m, s, h => by
    obtain ⟨s₁, h₁, held₁⟩ := one m s b h
    obtain ⟨s₂, h₂, held₂⟩ := foldlM_ok taken P one bs _ s₁ held₁
    refine ⟨s₂, ?_, by rwa [List.append_assoc] at held₂⟩
    rw [List.foldlM_cons, h₁]
    exact h₂

end Checked
end BenchSuite
