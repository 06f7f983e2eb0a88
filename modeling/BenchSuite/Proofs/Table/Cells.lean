import Mathlib.Data.String.Basic
import BenchSuite.Command.Table
import BenchSuite.Proofs.Decimal.Digits
/-!
# Cells

A text that fits its column fills it up exactly, and rows of equally wide cells are equally wide
(`length_row_congr`).  The texts of outcomes have no such bound.  A text that is too long is cut after some of its
bytes, and a cut within a character ends the program (`cutBytes`).  Every outcome is shown in characters of one byte
each (`Outcome.oneByte_text`), so that the cut never faults and is one after as many characters (`outcomeCell_eq`).
-/
namespace BenchSuite

open Decimal (Digit Numeral PowerOfTen digitText floatText readFloat toList_digitText isDigit_toChar)

/-- A text whose characters take one byte each. -/
def OneByte (s : String) : Prop := ∀ c ∈ s.toList, c.utf8Size = 1

instance (s : String) : Decidable (OneByte s) := List.decidableBAll (fun c : Char => c.utf8Size = 1) s.toList

namespace OneByte

theorem append {s t : String} (hs : OneByte s) (ht : OneByte t) : OneByte (s ++ t) := by
  intro c hc
  rw [String.toList_append, List.mem_append] at hc
  exact hc.elim (hs c) (ht c)

theorem ofList {cs : List Char} (h : ∀ c ∈ cs, c.utf8Size = 1) : OneByte (String.ofList cs) := by
  rwa [OneByte, String.toList_ofList]

theorem utf8Len_eq : ∀ {cs : List Char}, (∀ c ∈ cs, c.utf8Size = 1) → String.utf8Len cs = cs.length
  | [], _ => rfl
  | c :: cs, h => by
    obtain ⟨first, rest⟩ := List.forall_mem_cons.1 h
    rw [String.utf8Len_cons, utf8Len_eq rest, first, List.length_cons]

theorem utf8ByteSize_eq {s : String} (h : OneByte s) : s.utf8ByteSize = s.length := by
  rw [← String.ofList_toList (s := s), String.utf8ByteSize_ofList, utf8Len_eq h, String.length_ofList]

/-! ## Numbers and outcomes -/

theorem of_isDigit {c : Char} (h : c.isDigit = true) : c.utf8Size = 1 := by
  obtain ⟨d, rfl⟩ := Decimal.exists_digit h
  revert d
  decide

theorem nat (n : Nat) : OneByte (toString n) := by
  show OneByte n.repr
  rw [Nat.repr_eq_ofList_toDigits]
  exact ofList fun c hc => of_isDigit (Nat.isDigit_of_mem_toDigits (by decide) (by decide) hc)

theorem digits (ds : List Digit) : OneByte (digitText ds) := by
  intro c hc
  rw [toList_digitText] at hc
  obtain ⟨d, -, rfl⟩ := List.mem_map.1 hc
  exact of_isDigit (isDigit_toChar d)

theorem power (plus : Bool) (p : PowerOfTen) : OneByte (p.text plus) := by
  unfold PowerOfTen.text
  refine append (append (by decide) ?_) (digits _)
  split
  · decide
  · split <;> decide

theorem numeral (plus : Bool) (n : Numeral) : OneByte (n.text plus) := by
  unfold Numeral.text
  refine append (append (append ?_ (digits _)) ?_) ?_
  · split <;> decide
  · split
    · decide
    · exact append (by decide) (digits _)
  · cases n.power with
    | none => exact (by decide : OneByte "")
    | some p => exact power plus p

theorem hex (bytes : List UInt8) : OneByte (hexText bytes) := by
  have digit : ∀ n < 16, (hexDigit n).utf8Size = 1 := by decide
  refine ofList fun c hc => ?_
  obtain ⟨b, -, hc⟩ := List.mem_flatMap.1 hc
  have small := b.toNat_lt
  rcases List.mem_cons.1 hc with rfl | hc
  · exact digit _ (by omega)
  · obtain rfl := List.mem_singleton.1 hc
    exact digit _ (by omega)

end OneByte

/-- **No outcome is shown in a character beyond ASCII.** -/
theorem Outcome.oneByte_text : ∀ o : Outcome, OneByte o.text
  | count n => .nat n.toNat
  | scalar x => by
    show OneByte (floatText scalarStyle x)
    unfold floatText
    cases readFloat x with
    | finite b => exact .numeral _ _
    | infinite negative => cases negative <;> decide
    | nan => decide
  | digest bytes => .hex bytes.toList
  | flag b => by cases b <;> decide
  | signal samples => .append (.nat samples.length) (by decide)

namespace Table

/-! ## Widths -/

theorem length_left {width : Nat} {s : String} (fits : s.length ≤ width) : (left width s).length = width := by
  rw [left, String.length_append, String.length_ofList, List.length_replicate, Nat.add_sub_cancel' fits]

theorem length_right {width : Nat} {s : String} (fits : s.length ≤ width) : (right width s).length = width := by
  rw [right, String.length_append, String.length_ofList, List.length_replicate, Nat.sub_add_cancel fits]

theorem length_intercalate_congr (s : String) : ∀ {cells cells' : List String},
    cells.map String.length = cells'.map String.length →
    (s.intercalate cells).length = (s.intercalate cells').length
  | [], [], _ => rfl
  | [c], [c'], h => by simpa using h
  | [_], _ :: _ :: _, h | _ :: _ :: _, [_], h => by simp at h
  | c :: d :: cells, c' :: d' :: cells', h => by
    obtain ⟨first, rest⟩ := List.cons.inj h
    rw [String.intercalate_cons_cons, String.intercalate_cons_cons, String.length_append, String.length_append,
      String.length_append, String.length_append, length_intercalate_congr s rest, first]

/-- **Rows are equally wide** if their cells are. -/
theorem length_row_congr {cells cells' : List String} (h : cells.map String.length = cells'.map String.length) :
    (row cells).length = (row cells').length := by
  rw [row, row, String.length_append, String.length_append, String.length_append, String.length_append,
    length_intercalate_congr _ h]

theorem length_columns {middle : String} (one : middle.length = 1) : ∀ {cells : List String}, cells ≠ [] →
    (middle.intercalate ((cells.map String.length).map fun w => String.ofList (List.replicate (w + 2) '═'))).length =
      (" ║ ".intercalate cells).length + 2
  | [c], _ => by simp
  | c :: d :: cells, _ => by
    have rest := length_columns one (List.cons_ne_nil d cells)
    have bar : " ║ ".length = 3 := by decide
    simp only [List.map_cons] at rest ⊢
    rw [String.intercalate_cons_cons, String.intercalate_cons_cons, String.length_append, String.length_append,
      String.length_append, String.length_append, rest, one, bar, String.length_ofList, List.length_replicate]
    omega

/-- **A rule is as wide as a row** over the same columns. -/
theorem length_rule {start middle stop : String} (first : start.length = 1) (inner : middle.length = 1)
    (last : stop.length = 1) {cells : List String} (some : cells ≠ []) :
    (rule start middle stop (cells.map String.length)).length = (row cells).length := by
  have edges : "║ ".length = 2 ∧ " ║".length = 2 := by decide
  rw [rule, row, String.length_append, String.length_append, String.length_append, String.length_append,
    length_columns inner some, first, last, edges.1, edges.2]
  omega

/-- A count that a plan may hold fits a column of seven characters. -/
theorem length_count_le {n : UInt32} (h : n ≤ maxRepetitions) : (toString n.toNat).length ≤ 7 := by
  have bound : n.toNat ≤ 1000000 := UInt32.le_iff_toNat_le.1 h
  exact (Nat.length_repr_le_iff (by decide)).2 (Nat.lt_of_le_of_lt bound (by decide))

/-! ## Cuts -/

theorem cutBytes_eq_take : ∀ {cs : List Char} (n : Nat), (∀ c ∈ cs, c.utf8Size = 1) → cutBytes n cs = .ok (cs.take n)
  | [], n, _ => by rw [List.take_nil]; rfl
  | c :: cs, 0, _ => rfl
  | c :: cs, n + 1, h => by
    obtain ⟨first, rest⟩ := List.forall_mem_cons.1 h
    rw [cutBytes, if_neg (Nat.succ_ne_zero n), first, if_pos (Nat.le_add_left 1 n), Nat.add_sub_cancel,
      cutBytes_eq_take n rest]
    rfl

/-- An outcome as far as its cell shows it. -/
def shortened (o : Outcome) : String :=
  if 22 < o.text.length then String.ofList (o.text.toList.take 19) ++ "..." else o.text

theorem length_shortened (o : Outcome) : (shortened o).length ≤ 22 := by
  unfold shortened
  split
  · rename_i long
    have dots : "...".length = 3 := by decide
    rw [← String.length_toList] at long
    rw [String.length_append, String.length_ofList, List.length_take]
    omega
  · omega

/-- **No cut is within a character.** -/
theorem outcomeCell_eq (o : Outcome) : outcomeCell o = .ok (left 22 (shortened o)) := by
  unfold outcomeCell shortened
  rw [o.oneByte_text.utf8ByteSize_eq]
  split
  · rw [cutBytes_eq_take 19 o.oneByte_text]
    rfl
  · rfl

end Table
end BenchSuite
