import Mathlib.Algebra.Group.Nat.Defs
import Mathlib.Data.List.Induction
import BenchSuite.Kernel
/-!
# Rows packed into bytes

A packer in the middle of a row has folded whole bytes into its checksum and holds fewer than eight further bits
(`within_eq`).  One more bit is kept or ends a byte (`push_eq`), so a row folds in the bytes that its bits make in
groups of eight (`pushRow_holding`), and nothing of it is left in the packer when the next row begins (`after_eq`).
-/
namespace BenchSuite.Mandelbrot

/-! ## Bytes of a row -/

/-- The number that bits make, the first of them highest. -/
def numberOf (bits : List Bool) : Nat := bits.foldl (fun n b => 2 * n + b.toNat) 0

/-- A group of up to eight bits as a byte, with zeros filled in on the right. -/
def byteOf (group : List Bool) : Nat := numberOf (group ++ List.replicate (8 - group.length) false)

/-- **The bytes of a row of bits**, which is cut into groups of eight from the left. -/
def bytesIn (bits : List Bool) : List Nat :=
  (List.range ((bits.length + 7) / 8)).map fun k => byteOf ((bits.drop (8 * k)).take 8)

/-- Numbers folded together by exclusive or. -/
def fold (bytes : List Nat) : Nat := bytes.foldr (· ^^^ ·) 0

/-- **What the first rows of an image are folded to.** -/
def folded (bit : Nat → Nat → Bool) (size rows : Nat) : Nat :=
  fold ((List.range rows).flatMap fun row => bytesIn ((List.range size).map (bit row)))

theorem numberOf_concat (bits : List Bool) (b : Bool) :
    numberOf (bits ++ [b]) = 2 * numberOf bits + b.toNat := by
  simp [numberOf]

theorem numberOf_zeros (bits : List Bool) : ∀ n, numberOf (bits ++ List.replicate n false) = numberOf bits * 2 ^ n
  | 0 => by simp
  | n + 1 => by
    rw [List.replicate_succ', ← List.append_assoc, numberOf_concat, numberOf_zeros bits n, Bool.toNat_false,
      Nat.add_zero, Nat.mul_left_comm, Nat.pow_succ']

theorem numberOf_lt (bits : List Bool) : numberOf bits < 2 ^ bits.length := by
  induction bits using List.reverseRecOn with
  | nil => decide
  | append_singleton bits b ih =>
    have := Bool.toNat_lt b
    rw [numberOf_concat, List.length_append, List.length_singleton, Nat.pow_succ]
    omega

theorem numberOf_lt_byte {bits : List Bool} (h : bits.length ≤ 8) : numberOf bits < 2 ^ 8 :=
  Nat.lt_of_lt_of_le (numberOf_lt bits) (Nat.pow_le_pow_right (by decide) h)

theorem byteOf_lt {group : List Bool} (h : group.length ≤ 8) : byteOf group < 2 ^ 8 :=
  numberOf_lt_byte (by simp [h])

theorem bytesIn_append (full rest : List Bool) (h : 8 ∣ full.length) :
    bytesIn (full ++ rest) = bytesIn full ++ bytesIn rest := by
  obtain ⟨n, hn⟩ := h
  have count : ((full ++ rest).length + 7) / 8 = n + (rest.length + 7) / 8 := by
    rw [List.length_append]
    omega
  have groups : (full.length + 7) / 8 = n := by omega
  simp only [bytesIn, count, groups, List.range_add, List.map_append, List.map_map]
  congr 1
  · refine List.map_congr_left fun k hk => ?_
    have := List.mem_range.1 hk
    rw [List.drop_append_of_le_length (by omega), List.take_append_of_le_length (by simp; omega)]
  · refine List.map_congr_left fun k _ => ?_
    rw [Function.comp_apply, Nat.mul_add, ← hn, ← List.drop_drop, List.drop_left]

theorem bytesIn_short (group : List Bool) (h : group ≠ []) (h' : group.length ≤ 8) :
    bytesIn group = [byteOf group] := by
  have := List.length_pos_iff.2 h
  have count : (group.length + 7) / 8 = 1 := by omega
  simp [bytesIn, count, List.take_of_length_le h']

theorem fold_append (a b : List Nat) : fold (a ++ b) = fold a ^^^ fold b := by
  induction a with
  | nil => simp [fold]
  | cons x a ih => exact (congrArg (x ^^^ ·) ih).trans (Nat.xor_assoc x _ _).symm

theorem fold_lt (bytes : List Nat) (h : ∀ x ∈ bytes, x < 2 ^ 8) : fold bytes < 2 ^ 8 := by
  induction bytes with
  | nil => decide
  | cons x bytes ih =>
    exact Nat.xor_lt_two_pow (h x List.mem_cons_self) (ih fun y hy => h y (List.mem_cons_of_mem _ hy))

theorem folded_succ (bit : Nat → Nat → Bool) (size rows : Nat) :
    folded bit size (rows + 1) = folded bit size rows ^^^ fold (bytesIn ((List.range size).map (bit rows))) := by
  simp [folded, List.range_succ, fold_append]

theorem folded_lt (bit : Nat → Nat → Bool) (size rows : Nat) : folded bit size rows < 2 ^ 8 := by
  refine fold_lt _ fun x hx => ?_
  simp only [List.mem_flatMap, bytesIn, List.mem_map] at hx
  obtain ⟨row, -, k, -, rfl⟩ := hx
  exact byteOf_lt (List.length_take_le 8 _)

/-! ## One row -/

namespace Packer

/-- A packer that holds some bits of a byte. -/
def holding (sum : UInt32) (bits : List Bool) : Packer := ⟨sum, .ofNat (numberOf bits), .ofNat bits.length⟩

variable {sum : UInt32} {bits : List Bool} {b : Bool}

theorem add_bit (h : bits.length < 8) : Checked.addWord (.ofNat (2 * numberOf bits)) (if b then 1 else 0) =
    .ok (.ofNat (numberOf (bits ++ [b]))) := by
  have value : numberOf (bits ++ [b]) < 2 ^ 8 := numberOf_lt_byte (by simp; omega)
  rw [numberOf_concat] at value ⊢
  have sum := Checked.addWord_ofNat (Nat.lt_trans value (show 2 ^ 8 < UInt32.size by decide))
  cases b <;> exact sum

theorem fill_up (h : bits.length ≤ 8) :
    Checked.subWord 8 (.ofNat bits.length) = .ok (.ofNat (8 - bits.length)) ∧
    Checked.shiftWord (.ofNat (numberOf bits)) (.ofNat (8 - bits.length)) = .ok (.ofNat (byteOf bits)) := by
  refine ⟨Checked.subWord_ofNat h (by decide), ?_⟩
  rw [Checked.shiftWord_ofNat _ (by omega), Nat.shiftLeft_eq, byteOf, numberOf_zeros]

/-- **One more bit** ends a byte where it is the eighth or the last of its row, and is held otherwise. -/
theorem push_eq (h : bits.length < 8) (last : Bool) : (holding sum bits).push b last =
    .ok (if bits.length + 1 = 8 ∨ last then holding (sum ^^^ .ofNat (byteOf (bits ++ [b]))) []
      else holding sum (bits ++ [b])) := by
  have shifted : Checked.shiftWord (.ofNat (numberOf bits)) 1 = .ok (.ofNat (2 * numberOf bits)) := by
    have double : numberOf bits <<< 1 = 2 * numberOf bits := Nat.shiftLeft_succ _ 0
    rw [← double]
    exact Checked.shiftWord_ofNat _ (by decide)
  have small : bits.length + 1 < UInt32.size := Nat.lt_of_le_of_lt h (by decide)
  have counted : Checked.addWord (.ofNat bits.length) 1 = .ok (.ofNat (bits.length + 1)) := Checked.addWord_ofNat small
  have full : UInt32.ofNat (bits.length + 1) = 8 ↔ bits.length + 1 = 8 := by
    rw [← UInt32.toNat_inj, UInt32.toNat_ofNat_of_lt' small]
    rfl
  have one : (bits ++ [b]).length = bits.length + 1 := by simp
  obtain ⟨left, moved⟩ := fill_up (by rw [one]; exact h)
  rw [one] at left moved
  simp only [push, holding, shifted, add_bit h, counted, Checked.ok_bind, full]
  by_cases eight : bits.length + 1 = 8
  · simp [eight, flush, byteOf, numberOf, pure, Except.pure]
  · cases last with
    | false => simp [eight, pure, Except.pure]
    | true =>
      simp only [eight, left, moved, Checked.ok_bind]
      rfl

/-- The packer after the first pixels of a row. -/
def within (bit : Nat → Bool) (size columns : Nat) (p : Packer) : Checked Packer :=
  (List.range columns).foldlM (fun p column => p.push (bit column) (column + 1 == size)) p

theorem within_succ (bit : Nat → Bool) (size columns : Nat) (p : Packer) : within bit size (columns + 1) p =
    within bit size columns p >>= fun q => q.push (bit columns) (columns + 1 == size) := by
  simp [within, List.range_succ]

theorem pushRow_eq (bit : Nat → Bool) (size : Nat) : ∀ left, left ≤ size → ∀ p : Packer,
    p.pushRow bit size left = (List.range' (size - left) left).foldlM
      (fun p column => p.push (bit column) (column + 1 == size)) p
  | 0, _, _ => rfl
  | left + 1, h, p => by
    have next : size - (left + 1) + 1 = size - left := by omega
    simp only [pushRow, List.range'_succ, List.foldlM_cons, next, pushRow_eq bit size left (by omega)]

theorem pushRow_eq_within (bit : Nat → Bool) (size : Nat) (p : Packer) :
    p.pushRow bit size size = within bit size size p := by
  rw [pushRow_eq bit size size (Nat.le_refl size), Nat.sub_self, ← List.range_eq_range', within]

/-- **In the middle of a row** the bits so far are whole bytes, which are folded in, and fewer than eight held ones. -/
theorem within_eq (bit : Nat → Bool) (size : Nat) (sum : UInt32) : ∀ columns, columns < size →
    ∃ full held, (List.range columns).map bit = full ++ held ∧ 8 ∣ full.length ∧ held.length < 8 ∧
      within bit size columns (holding sum []) = .ok (holding (sum ^^^ .ofNat (fold (bytesIn full))) held)
  | 0, _ => ⟨[], [], rfl, by decide, by decide, by simp [within, bytesIn, fold, pure, Except.pure]⟩
  | columns + 1, h => by
    obtain ⟨full, held, split, whole, short, run⟩ := within_eq bit size sum columns (by omega)
    have inner : (columns + 1 == size) = false := by simp; omega
    have one : (held ++ [bit columns]).length = held.length + 1 := by simp
    rw [within_succ, run, Checked.ok_bind, push_eq short, inner, List.range_succ, List.map_append, split]
    by_cases eight : held.length + 1 = 8
    · refine ⟨full ++ (held ++ [bit columns]), [], by simp, ?_, by decide, ?_⟩
      · rw [List.length_append, one, eight]
        exact Nat.dvd_add whole (Nat.dvd_refl 8)
      · rw [if_pos (.inl eight), bytesIn_append _ _ whole, bytesIn_short (held ++ [bit columns]) (by simp) (by omega),
          fold_append]
        simp [fold, UInt32.xor_assoc]
    · refine ⟨full, held ++ [bit columns], by simp, whole, by omega, ?_⟩
      rw [if_neg (by simp [eight])]

theorem within_held (bit : Nat → Bool) (size : Nat) (sum : UInt32) (column : Fin size) :
    ∃ p, within bit size column (holding sum []) = .ok p ∧
      p.bits.toNat = column % 8 ∧ p.byte.toNat < 2 ^ (column % 8 : Nat) := by
  obtain ⟨full, held, split, whole, short, run⟩ := within_eq bit size sum column column.isLt
  have count := congrArg List.length split
  rw [List.length_map, List.length_range, List.length_append] at count
  have left : (column : Nat) % 8 = held.length := by omega
  have small := Nat.lt_trans (numberOf_lt_byte (Nat.le_of_lt short)) (show 2 ^ 8 < UInt32.size by decide)
  refine ⟨_, run, ?_, ?_⟩
  · rw [left]
    exact UInt32.toNat_ofNat_of_lt' (Nat.lt_trans short (by decide))
  · rw [left, holding, UInt32.toNat_ofNat_of_lt' small]
    exact numberOf_lt held

/-- **A whole row** folds in its bytes and leaves no bit behind. -/
theorem pushRow_holding (bit : Nat → Bool) (size : Nat) (sum : UInt32) : (holding sum []).pushRow bit size size =
    .ok (holding (sum ^^^ .ofNat (fold (bytesIn ((List.range size).map bit)))) []) := by
  rw [pushRow_eq_within]
  cases size with
  | zero => simp [within, bytesIn, fold, pure, Except.pure]
  | succ last =>
    obtain ⟨full, held, split, whole, short, run⟩ := within_eq bit (last + 1) sum last (Nat.lt_succ_self last)
    rw [within_succ, run, Checked.ok_bind, push_eq short, beq_self_eq_true, if_pos (.inr rfl), List.range_succ,
      List.map_append, split, List.append_assoc, List.map_singleton, bytesIn_append _ _ whole,
      bytesIn_short (held ++ [bit last]) (by simp) (by simp; omega), fold_append]
    simp [fold, UInt32.xor_assoc]

/-- The packer after the first rows of an image. -/
def after (bit : Nat → Nat → Bool) (size rows : Nat) : Checked Packer :=
  (List.range rows).foldlM (fun p row => p.pushRow (bit row) size size) empty

theorem after_succ (bit : Nat → Nat → Bool) (size rows : Nat) :
    after bit size (rows + 1) = after bit size rows >>= fun p => p.pushRow (bit rows) size size := by
  simp [after, List.range_succ]

theorem after_eq (bit : Nat → Nat → Bool) (size : Nat) : ∀ rows,
    after bit size rows = .ok ⟨.ofNat (folded bit size rows), 0, 0⟩
  | 0 => rfl
  | rows + 1 => by
    rw [after_succ, after_eq bit size rows, Checked.ok_bind, folded_succ, UInt32.ofNat_xor]
    exact pushRow_holding (bit rows) size _

theorem rowSums_eq {bit : Nat → Nat → Bool} {size : Nat} {p : Nat → Packer}
    (h : ∀ rows, after bit size rows = .ok (p rows)) : ∀ left, left ≤ size →
      rowSums bit size left (p (size - left)) = .ok ((List.range' (size - left) left).map fun row => (p (row + 1)).sum)
  | 0, _ => rfl
  | left + 1, hl => by
    have next : size - (left + 1) + 1 = size - left := by omega
    have row := after_succ bit size (size - (left + 1))
    rw [h, h, next] at row
    have row : (p (size - (left + 1))).pushRow (bit (size - (left + 1))) size size = .ok (p (size - left)) := row.symm
    simp only [rowSums, row, Checked.ok_bind, rowSums_eq h left (by omega), List.range'_succ, List.map_cons, next]
    rfl

end Packer

theorem sums_eq (bit : Nat → Nat → Bool) (size : Nat) :
    sums bit size = .ok ((List.range size).map fun row => .ofNat (folded bit size (row + 1))) := by
  have all := Packer.rowSums_eq (Packer.after_eq bit size) size (Nat.le_refl size)
  rwa [Nat.sub_self, ← List.range_eq_range'] at all

theorem checksum_map (f : Nat → UInt32) (h : f 0 = 0) : ∀ size,
    checksum ((List.range size).map fun row => f (row + 1)) = f size
  | 0 => h.symm
  | size + 1 => by simp [checksum, List.range_succ]

/-- **An image is packed row by row.**  Whatever its escape bits are, nothing overflows: the checksum is the exclusive
or of the bytes that the rows make, cut into groups of eight bits from the left; each row tells the checksum up to
itself; it begins with no bit left of the row before, and up to any of its pixels fewer than eight bits are held, so
that no shift moves one of them out of the byte. -/
theorem image_packed (bit : Nat → Nat → Bool) (size : Nat) :
    (sums bit size).map checksum = .ok (.ofNat (folded bit size size)) ∧ folded bit size size ≤ 255 ∧
    (Execution.ofRows (sums bit size)).records = ((List.range size).map fun row =>
      ⟨.trace, "mandelbrot row", [("row", .number row), ("sum", .number (folded bit size (row + 1)))]⟩) ∧
    (sums bit size = (List.range size).mapM fun row => return (← Packer.after bit size (row + 1)).sum) ∧
    ∀ row, Packer.after bit size row = .ok ⟨.ofNat (folded bit size row), 0, 0⟩ ∧ ∀ column : Fin size, ∃ p,
      Packer.within (bit row) size column ⟨.ofNat (folded bit size row), 0, 0⟩ = .ok p ∧
      p.bits.toNat = column % 8 ∧ p.byte.toNat < 2 ^ (column % 8 : Nat) := by
  refine ⟨?_, Nat.le_of_lt_succ (folded_lt bit size size), ?_, ?_, fun row =>
    ⟨Packer.after_eq bit size row, Packer.within_held (bit row) size (.ofNat (folded bit size row))⟩⟩
  · rw [sums_eq, Except.map, checksum_map fun rows => .ofNat (folded bit size rows)]
    rfl
  · rw [sums_eq]
    apply List.ext_getElem
    · simp [Execution.ofRows, rowRecords]
    · intro row h _
      have small := Nat.lt_trans (folded_lt bit size (row + 1)) (show 2 ^ 8 < UInt32.size by decide)
      simp [Execution.ofRows, rowRecords, rowRecord, Nat.mod_eq_of_lt small]
  · simp only [Packer.after_eq, Checked.ok_bind, List.mapM_pure, sums_eq]
    rfl

/-- A row of nine ones makes the bytes 255 and 128. -/
example : (sums (fun _ _ => true) 9).map checksum = .ok 127 := by decide

end BenchSuite.Mandelbrot
