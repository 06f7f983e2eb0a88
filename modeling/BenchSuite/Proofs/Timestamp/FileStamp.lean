import BenchSuite.Proofs.Decimal.Digits
import BenchSuite.Proofs.Timestamp.Calendar
import BenchSuite.Timestamp.Printer
/-!
# Stamps sort by time

From the year 0 to 9999 a stamp is a row of numbers, each filled up to a width of its own, with the same marks
between them.  So stamps compare as the numbers do, from the year down (`fields_lt`), and these compare as
the milliseconds that the stamps name (`fileStamp_lt`).
-/
namespace BenchSuite.Timestamp

open Decimal

/-- A timestamp whose stamp has one width: a year of four digits at most, and no leap second. -/
structure Stamped (t : Timestamp) : Prop where
  year_nonneg : 0 ≤ t.clocktime.date.year
  year_le : t.clocktime.date.year ≤ 9999
  nanos_lt : t.nanos < 1000000000

/-! ## Fields of one width -/

/-- The characters of a number filled up to a width. -/
def field (width n : Nat) : List Char := (padDigits width n).map Digit.toChar

theorem toList_padded (width n : Nat) : (padded width n).toList = field width n := toList_digitText _

theorem append_lt_of_lt : ∀ {a b : List Char} (x y : List Char), a.length = b.length → a < b → a ++ x < b ++ y
  | [], [], _, _, _, h => absurd h (List.lt_irrefl _)
  | c :: a, d :: b, x, y, len, h => by
    rw [List.cons_append, List.cons_append, List.cons_lt_cons_iff]
    rcases List.cons_lt_cons_iff.1 h with less | ⟨same, rest⟩
    · exact .inl less
    · exact .inr ⟨same, append_lt_of_lt x y (Nat.succ.inj len) rest⟩

/-- **A field decides**, and one that is the same leaves it to what follows. -/
theorem fields_lt {width n m : Nat} {x y : List Char} (pos : 0 < width) (hn : n < 10 ^ width)
    (hm : m < 10 ^ width) (h : n < m ∨ n = m ∧ x < y) : field width n ++ x < field width m ++ y := by
  rcases h with less | ⟨rfl, rest⟩
  · have len : (padDigits width n).length = (padDigits width m).length := by
      rw [length_padDigits pos hn, length_padDigits pos hm]
    apply append_lt_of_lt
    · simpa [field] using len
    · apply map_toChar_lt len
      rwa [ofDigits_padDigits, ofDigits_padDigits]
  · exact List.append_left_lt rest

/-! ## Stamps -/

/-- The date of a stamp, and what follows it. -/
def dateChars (d : Date) (rest : List Char) : List Char :=
  field 4 d.year.toNat ++ '-' :: (field 2 d.month ++ '-' :: (field 2 d.day ++ rest))

/-- The time of a stamp, from the second of the day and the millisecond. -/
def timeChars (second milli : Nat) (rest : List Char) : List Char :=
  field 2 (second / 3600) ++ '-' :: (field 2 (second / 60 % 60) ++ '-' ::
    (field 2 (second % 60) ++ '.' :: (field 3 milli ++ rest)))

theorem dateChars_lt {a b : Date} {x y : List Char} (ha : a.Valid) (hb : b.Valid) (first : 0 ≤ a.year)
    (last : b.year ≤ 9999) (h : Date.Before a b) : dateChars a x < dateChars b y := by
  have monthA : a.month < 10 ^ 2 := Nat.lt_of_le_of_lt ha.2.1 (by decide)
  have monthB : b.month < 10 ^ 2 := Nat.lt_of_le_of_lt hb.2.1 (by decide)
  have dayA : a.day < 10 ^ 2 := Nat.lt_of_le_of_lt (Date.day_le ha) (by decide)
  have dayB : b.day < 10 ^ 2 := Nat.lt_of_le_of_lt (Date.day_le hb) (by decide)
  rcases h with years | ⟨year, months | ⟨month, days⟩⟩
  · exact fields_lt (by decide) (by omega) (by omega) (.inl (by omega))
  · exact fields_lt (by decide) (by omega) (by omega) (.inr ⟨by rw [year],
      List.cons_lt_cons_self.2 (fields_lt (by decide) monthA monthB (.inl months))⟩)
  · exact fields_lt (by decide) (by omega) (by omega) (.inr ⟨by rw [year],
      List.cons_lt_cons_self.2 (fields_lt (by decide) monthA monthB (.inr ⟨month,
        List.cons_lt_cons_self.2 (fields_lt (by decide) dayA dayB (.inl days))⟩))⟩)

theorem dateChars_lt_dateChars (d : Date) {x y : List Char} (h : x < y) : dateChars d x < dateChars d y := by
  refine List.append_left_lt (List.cons_lt_cons_self.2 ?_)
  exact List.append_left_lt (List.cons_lt_cons_self.2 (List.append_left_lt h))

theorem timeChars_lt {s s' m m' : Nat} {x y : List Char} (hs : s < 86400) (hs' : s' < 86400) (hm : m < 1000)
    (hm' : m' < 1000) (h : s < s' ∨ s = s' ∧ m < m') : timeChars s m x < timeChars s' m' y := by
  have order : s / 3600 < s' / 3600 ∨ s / 3600 = s' / 3600 ∧
      (s / 60 % 60 < s' / 60 % 60 ∨ s / 60 % 60 = s' / 60 % 60 ∧
        (s % 60 < s' % 60 ∨ s % 60 = s' % 60 ∧ m < m')) := by omega
  refine fields_lt (by decide) (by omega) (by omega) (order.imp_right (And.imp_right fun order => ?_))
  refine List.cons_lt_cons_self.2 (fields_lt (by decide) (by omega) (by omega)
    (order.imp_right (And.imp_right fun order => ?_)))
  refine List.cons_lt_cons_self.2 (fields_lt (by decide) (by omega) (by omega)
    (order.imp_right (And.imp_right fun less => ?_)))
  exact List.cons_lt_cons_self.2 (fields_lt (by decide) hm hm' (.inl less))

/-- The second of the day. -/
def secondOfDay (t : Timestamp) : Nat := (t.seconds % 86400).toNat

theorem secondOfDay_lt (t : Timestamp) : t.secondOfDay < 86400 := by
  unfold secondOfDay
  omega

theorem clocktime_eq {t : Timestamp} (h : t.nanos < 1000000000) :
    t.clocktime = ⟨t.clocktime.date, t.secondOfDay / 3600, t.secondOfDay / 60 % 60,
      t.secondOfDay % 60, t.nanos⟩ := by
  simp only [clocktime, secondOfDay, Nat.div_eq_of_lt h, Nat.mod_eq_of_lt h, Nat.add_zero]

theorem Stamped.toList_fileStamp {t : Timestamp} (h : t.Stamped) : t.fileStamp.toList =
    dateChars t.clocktime.date ('T' :: timeChars t.secondOfDay (t.nanos / 1000000) ['Z']) := by
  unfold fileStamp
  rw [clocktime_eq h.nanos_lt]
  simp only [Date.text, yearText, h.year_nonneg, h.year_le, and_self, if_true, Clocktime.timeText,
    String.toList_append, toList_padded, dateChars, timeChars]
  simp

theorem Stamped.milliseconds_eq {t : Timestamp} (h : t.Stamped) : t.nanos / 1000000 < 1000 ∧
    t.milliseconds = (t.seconds / 86400) * 86400000 + t.secondOfDay * 1000 + (t.nanos / 1000000 : Nat) := by
  have := h.nanos_lt
  unfold milliseconds secondOfDay
  omega

/-- The characters that stamps are made of. -/
def isStampChar (c : Char) : Bool := c.isDigit || c == '-' || c == 'T' || c == '.' || c == 'Z'

theorem all_field (width n : Nat) : (field width n).all isStampChar = true := by
  unfold field
  rw [List.all_map, List.all_eq_true]
  intro d _
  simp only [Function.comp_apply, isStampChar, isDigit_toChar, Bool.true_or]

theorem length_field {width n : Nat} (pos : 0 < width) (h : n < 10 ^ width) : (field width n).length = width := by
  rw [field, List.length_map, length_padDigits pos h]

/-- **Stamps sort by time**, cut off at the millisecond. -/
theorem fileStamp_lt {t u : Timestamp} (ht : t.Stamped) (hu : u.Stamped)
    (h : t.milliseconds < u.milliseconds) : t.fileStamp.toList < u.fileStamp.toList := by
  obtain ⟨milliT, msT⟩ := ht.milliseconds_eq
  obtain ⟨milliU, msU⟩ := hu.milliseconds_eq
  have secondT := t.secondOfDay_lt
  have secondU := u.secondOfDay_lt
  rw [ht.toList_fileStamp, hu.toList_fileStamp]
  have days : t.seconds / 86400 < u.seconds / 86400 ∨ t.seconds / 86400 = u.seconds / 86400 := by omega
  rcases days with earlier | same
  · exact dateChars_lt (Date.valid_ofDays _) (Date.valid_ofDays _) ht.year_nonneg hu.year_le
      (Date.ofDays_before earlier)
  · have date : t.clocktime.date = u.clocktime.date := congrArg Date.ofDays same
    rw [date]
    exact dateChars_lt_dateChars _ (List.cons_lt_cons_self.2 (timeChars_lt secondT secondU milliT milliU (by omega)))

end BenchSuite.Timestamp
