import BenchSuite.Proofs.Timestamp.FileStamp
import BenchSuite.Timestamp.Reader
/-!
# Points in time are read as they were written

A number filled up to the width that its reader takes at most is read back, whatever follows it.  So from the
year 0 to 9999 the text of a timestamp gives back its fields one by one, and these the timestamp itself
(`ofText?_text`).
-/
namespace BenchSuite.Timestamp

open Decimal
open Text (digitsValue isBlank trimStart)

/-! ## Numbers -/

theorem isBlank_toChar : ∀ d : Digit, isBlank d.toChar = false := by decide

theorem spanDigits_digits {rest : List Char} : ∀ {ds : List Digit} {limit : Nat},
    ds.length = limit ∨ ds.length ≤ limit ∧ (∀ c, rest.head? = some c → c.isDigit = false) →
    spanDigits limit (ds.map Digit.toChar ++ rest) = (ds.map Digit.toChar, rest)
  | [], 0, _ => rfl
  | [], limit + 1, h => by
    obtain ⟨-, stop⟩ := h.resolve_left (Nat.succ_ne_zero limit).symm
    cases rest with
    | nil => rfl
    | cons c rest =>
      show (if c.isDigit = true then _ else ([], c :: rest)) = _
      rw [stop c rfl]
      rfl
  | d :: ds, 0, h => by
    rw [List.length_cons] at h
    omega
  | d :: ds, limit + 1, h => by
    have more : ds.length = limit ∨ ds.length ≤ limit ∧ (∀ c, rest.head? = some c → c.isDigit = false) := by
      rw [List.length_cons] at h
      exact h.imp Nat.succ.inj (And.imp_left Nat.le_of_succ_le_succ)
    rw [List.map_cons, List.cons_append, spanDigits, if_pos (isDigit_toChar d), spanDigits_digits more]

theorem digitsValue_field (width n : Nat) : digitsValue (field width n) = n := by
  rw [field, digitsValue_toChar, ofDigits_padDigits]

theorem field_eq_cons (width n : Nat) : ∃ d ds, field width n = Digit.toChar d :: ds := by
  have ne : padDigits width n ≠ [] := by
    rw [padDigits]
    exact fun h => digitsOf_ne_nil n (List.append_eq_nil_iff.1 h).2
  obtain ⟨d, ds, first⟩ := List.exists_cons_of_ne_nil ne
  exact ⟨d, ds.map Digit.toChar, by rw [field, first, List.map_cons]⟩

theorem trimStart_field (width n : Nat) (rest : List Char) : trimStart (field width n ++ rest) = field width n ++ rest := by
  obtain ⟨d, ds, first⟩ := field_eq_cons width n
  rw [first, List.cons_append, trimStart, List.dropWhile_cons, isBlank_toChar]
  rfl

section

variable {width n : Nat} (pos : 0 < width) (h : n < 10 ^ width) (rest : List Char)
include pos h

theorem spanDigits_field : spanDigits width (field width n ++ rest) = (field width n, rest) :=
  spanDigits_digits (.inl (length_padDigits pos h))

/-- **A number of the width that is read** is read back, whatever follows it. -/
theorem readNumber_field : readNumber width (field width n ++ rest) = some (n, rest) := by
  obtain ⟨d, ds, first⟩ := field_eq_cons width n
  have value := digitsValue_field width n
  rw [readNumber, spanDigits_field pos h]
  rw [first] at value ⊢
  show some (digitsValue (d.toChar :: ds), rest) = _
  rw [value]

end

theorem readField_field {low high n : Nat} (h : n < 100) (bounds : low ≤ n ∧ n ≤ high) (rest : List Char) :
    readField low high (field 2 n ++ rest) = some (n, rest) := by
  rw [readField, trimStart_field, readNumber_field (by decide) h]
  exact if_pos bounds

theorem readYear_digit (d : Digit) (cs : List Char) :
    readYear (d.toChar :: cs) = (readNumber 4 (d.toChar :: cs)).map fun (n, rest) => ((n : Int), rest) := by
  match d with
  | 0 | 1 | 2 | 3 | 4 | 5 | 6 | 7 | 8 | 9 => rfl

theorem readYear_field {y : Nat} (h : y < 10000) (rest : List Char) :
    readYear (field 4 y ++ rest) = some ((y : Int), rest) := by
  obtain ⟨d, ds, first⟩ := field_eq_cons 4 y
  have number := readNumber_field (n := y) (show 0 < 4 by decide) h rest
  rw [first] at number ⊢
  rw [List.cons_append] at number ⊢
  rw [readYear_digit, number]
  rfl

theorem readNanos_field {width k : Nat} (pos : 0 < width) (short : width ≤ 9) (h : k < 10 ^ width) :
    readNanos ('.' :: (field width k ++ ['Z'])) = some (k * 10 ^ (9 - width), ['Z']) := by
  have span : spanDigits 9 (field width k ++ ['Z']) = (field width k, ['Z']) := by
    refine spanDigits_digits (.inr ⟨?_, fun c hc => ?_⟩)
    · rw [length_padDigits pos h]
      exact short
    · obtain rfl := Option.some.inj hc
      rfl
  obtain ⟨d, ds, first⟩ := field_eq_cons width k
  have value := digitsValue_field width k
  have length := length_field pos h
  rw [readNanos, span]
  rw [first] at value length ⊢
  show some (digitsValue (d.toChar :: ds) * 10 ^ (9 - (d.toChar :: ds).length), ['Z']) = _
  rw [value, length]

theorem readNanos_fractionText {n : Nat} (h : n < 1000000000) :
    readNanos ((fractionText n).toList ++ ['Z']) = some (n, ['Z']) := by
  have digits : ∀ {width k}, 0 < width → width ≤ 9 → k < 10 ^ width → k * 10 ^ (9 - width) = n →
      readNanos (("." ++ padded width k).toList ++ ['Z']) = some (n, ['Z']) := by
    intro width k pos short bound value
    rw [String.toList_append, toList_padded, ← value]
    exact readNanos_field pos short bound
  unfold fractionText
  split
  · subst n
    rfl
  split
  · exact digits (by decide) (by decide) (by omega) (by omega)
  split
  · exact digits (by decide) (by decide) (by omega) (by omega)
  · exact digits (by decide) (by decide) (by omega) (by omega)

/-! ## Timestamps -/

/-- The time of a text, and what follows it. -/
def clockChars (second : Nat) (rest : List Char) : List Char :=
  field 2 (second / 3600) ++ ':' :: (field 2 (second / 60 % 60) ++ ':' :: (field 2 (second % 60) ++ rest))

namespace Stamped

variable {t : Timestamp} (h : t.Stamped)
include h

theorem toList_text : t.text.toList = dateChars t.clocktime.date
    ('T' :: clockChars t.secondOfDay ((fractionText t.nanos).toList ++ ['Z'])) := by
  unfold text
  rw [clocktime_eq h.nanos_lt]
  simp only [Date.text, yearText, h.year_nonneg, h.year_le, and_self, if_true, Clocktime.timeText,
    String.toList_append, toList_padded, dateChars, clockChars]
  simp

theorem inRange_days : inRange (t.seconds / 86400) = true := by
  have first := h.year_nonneg
  have last := h.year_le
  obtain ⟨month, month', day, -⟩ := Date.valid_ofDays (t.seconds / 86400)
  have day' := Date.day_le (Date.valid_ofDays (t.seconds / 86400))
  have days := Date.toDays_ofDays (t.seconds / 86400)
  change 0 ≤ (Date.ofDays (t.seconds / 86400)).year at first
  change (Date.ofDays (t.seconds / 86400)).year ≤ 9999 at last
  have bounds : -800000 ≤ t.seconds / 86400 ∧ t.seconds / 86400 ≤ 4000000 := by
    generalize Date.ofDays (t.seconds / 86400) = date at *
    rw [← days]
    unfold Date.toDays
    split <;> dsimp only <;> omega
  have range : dayRange.1 ≤ -800000 ∧ 4000000 ≤ dayRange.2 := by decide
  rw [inRange, Bool.and_eq_true, decide_eq_true_eq, decide_eq_true_eq]
  omega

theorem ofLocal_clocktime : ofLocal t.clocktime.date (t.secondOfDay / 3600) (t.secondOfDay / 60 % 60)
    (t.secondOfDay % 60) t.nanos 0 = some t := by
  have days : t.clocktime.date.toDays = t.seconds / 86400 := Date.toDays_ofDays _
  have second : t.secondOfDay = t.seconds % 86400 := by
    unfold secondOfDay
    omega
  have seconds : t.seconds / 86400 * 86400 + (t.secondOfDay / 3600 * 3600 + t.secondOfDay / 60 % 60 * 60 +
      (t.secondOfDay % 60 - t.secondOfDay % 60 / 60) : Nat) - 0 = t.seconds := by omega
  have leap : t.secondOfDay % 60 / 60 = 0 := by omega
  unfold ofLocal
  dsimp only
  rw [days, seconds, leap, if_pos ⟨Date.valid_ofDays _, h.inRange_days, by decide, h.inRange_days⟩, Nat.zero_mul,
    Nat.add_zero]

/-- **A timestamp is read as it was written.** -/
theorem ofText?_text : ofText? t.text = some t := by
  have first := h.year_nonneg
  have last := h.year_le
  obtain ⟨lowMonth, highMonth, lowDay, -⟩ := Date.valid_ofDays (t.seconds / 86400)
  have highDay := Date.day_le (Date.valid_ofDays (t.seconds / 86400))
  have inDay := t.secondOfDay_lt
  have year := readYear_field (show t.clocktime.date.year.toNat < 10000 by omega)
  have sameYear : ((t.clocktime.date.year.toNat : Nat) : Int) = t.clocktime.date.year := Int.toNat_of_nonneg first
  have month : ∀ rest, readField 1 12 (field 2 t.clocktime.date.month ++ rest) = some (t.clocktime.date.month, rest) :=
    readField_field (Nat.lt_of_le_of_lt highMonth (by decide)) ⟨lowMonth, highMonth⟩
  have day : ∀ rest, readField 1 31 (field 2 t.clocktime.date.day ++ rest) = some (t.clocktime.date.day, rest) :=
    readField_field (Nat.lt_of_le_of_lt highDay (by decide)) ⟨lowDay, highDay⟩
  have hour := readField_field (show t.secondOfDay / 3600 < 100 by omega) ⟨Nat.zero_le _, show _ ≤ 23 by omega⟩
  have minute := readField_field (show t.secondOfDay / 60 % 60 < 100 by omega) ⟨Nat.zero_le _, show _ ≤ 59 by omega⟩
  have second := readField_field (show t.secondOfDay % 60 < 100 by omega) ⟨Nat.zero_le _, show _ ≤ 60 by omega⟩
  have dash : ∀ rest, skipMark '-' ('-' :: rest) = some rest := fun _ => rfl
  have colon : ∀ rest, skipMark ':' (':' :: rest) = some rest := fun _ => rfl
  have offset : readOffset (trimStart ['Z']) = some (0, []) := rfl
  -- the fields are read in their order, each up to where the next one starts
  rw [ofText?, h.toList_text, ofChars?, dateChars]
  simp only [Option.bind_eq_bind]
  rw [year, Option.bind_some, dash, Option.bind_some, month, Option.bind_some, dash, Option.bind_some, day,
    Option.bind_some]
  dsimp only
  rw [if_pos (.inl rfl), Option.bind_some, clockChars, hour, Option.bind_some, colon, Option.bind_some, minute,
    Option.bind_some, colon, Option.bind_some, second, Option.bind_some, readNanos_fractionText h.nanos_lt,
    Option.bind_some, offset, Option.bind_some, sameYear]
  exact (if_pos rfl).trans h.ofLocal_clocktime

end Stamped
end BenchSuite.Timestamp
