import BenchSuite.Proofs.Timestamp.RoundTrip
/-!
# Which points in time share a stamp

A stamp gives back its fields over all years, since everything behind the year has one width.  So two points
in time share a stamp just when they agree to the millisecond (`fileStamp_eq_iff`): what is finer is cut off,
and nothing else is.
-/
namespace BenchSuite.Timestamp

open Decimal
open Text (digitsValue)

/-- A point in time that can occur: its day is in the range of timestamps, and its part of a second is less than
one second, or less than two in a leap second. -/
structure Valid (t : Timestamp) : Prop where
  day : inRange (t.seconds / 86400) = true
  nanos_lt : t.nanos < 2000000000

instance (t : Timestamp) : Decidable t.Valid := decidable_of_iff (_ ∧ _) ⟨fun h => ⟨h.1, h.2⟩, fun h => ⟨h.1, h.2⟩⟩

theorem Stamped.valid {t : Timestamp} (h : t.Stamped) : t.Valid :=
  ⟨h.inRange_days, Nat.lt_trans h.nanos_lt (by decide)⟩

/-- **Two points in time agree to the millisecond.**  A leap second has the milliseconds of the second after it, but
lies in the minute before. -/
def SameMillisecond (t u : Timestamp) : Prop :=
  t.seconds / 60 = u.seconds / 60 ∧ t.milliseconds = u.milliseconds

instance (t u : Timestamp) : Decidable (SameMillisecond t u) := inferInstanceAs (Decidable (_ ∧ _))

theorem Stamped.sameMillisecond_iff {t u : Timestamp} (ht : t.Stamped) (hu : u.Stamped) :
    SameMillisecond t u ↔ t.milliseconds = u.milliseconds := by
  have nanosT := ht.nanos_lt
  have nanosU := hu.nanos_lt
  unfold SameMillisecond milliseconds
  omega

/-! ## Fields give back their numbers -/

theorem field_append_inj {width n m : Nat} {x y : List Char} (pos : 0 < width) (hn : n < 10 ^ width)
    (hm : m < 10 ^ width) : field width n ++ x = field width m ++ y ↔ n = m ∧ x = y := by
  constructor
  · intro h
    obtain ⟨same, rest⟩ := List.append_inj h (by rw [length_field pos hn, length_field pos hm])
    have number := congrArg digitsValue same
    rw [digitsValue_field, digitsValue_field] at number
    exact ⟨number, rest⟩
  · rintro ⟨rfl, rfl⟩
    rfl

theorem readNumber_all (width n : Nat) : readNumber (field width n).length (field width n) = some (n, []) := by
  have span : spanDigits (field width n).length (field width n) = (field width n, []) := by
    have whole : (padDigits width n).length = (field width n).length := (List.length_map _).symm
    have := @spanDigits_digits [] _ _ (.inl whole)
    rwa [List.append_nil] at this
  obtain ⟨d, ds, first⟩ := field_eq_cons width n
  have value := digitsValue_field width n
  rw [readNumber, span]
  rw [first] at value ⊢
  show some (digitsValue (d.toChar :: ds), ([] : List Char)) = _
  rw [value]

/-- **Every year is read as it was written.** -/
theorem readYear_yearText (y : Int) : readYear (yearText y).toList = some (y, []) := by
  unfold yearText
  split
  · have := readYear_field (y := y.toNat) (by omega) []
    rw [List.append_nil, Int.toNat_of_nonneg (by omega)] at this
    rw [toList_padded, this]
  · by_cases negative : y < 0
    · rw [if_pos negative, String.toList_append, toList_padded]
      show (readNumber (field 4 y.natAbs).length (field 4 y.natAbs)).map _ = _
      rw [readNumber_all]
      show some (-(y.natAbs : Int), _) = _
      rw [Int.ofNat_natAbs_of_nonpos (by omega), Int.neg_neg]
    · rw [if_neg negative, String.toList_append, toList_padded]
      show (readNumber (field 4 y.natAbs).length (field 4 y.natAbs)).map _ = _
      rw [readNumber_all]
      show some ((y.natAbs : Int), _) = _
      rw [Int.natAbs_of_nonneg (by omega)]

theorem yearText_injective {y z : Int} (h : yearText y = yearText z) : y = z := by
  have read := readYear_yearText y
  rw [h, readYear_yearText] at read
  exact (congrArg Prod.fst (Option.some.inj read)).symm

theorem date_eq_of_fields {a b : Date} (year : a.year = b.year) (month : a.month = b.month) (day : a.day = b.day) :
    a = b := by
  cases a
  cases b
  cases year
  cases month
  cases day
  rfl

/-! ## Stamps give back their fields -/

/-- What stands behind the year in a stamp. -/
def afterYear (c : Clocktime) : List Char :=
  '-' :: (field 2 c.date.month ++ '-' :: (field 2 c.date.day ++ 'T' :: (field 2 c.hour ++ '-' ::
    (field 2 c.minute ++ '-' :: (field 2 c.second ++ '.' :: (field 3 (c.nanos / 1000000) ++ ['Z']))))))

theorem toList_fileStamp (t : Timestamp) :
    t.fileStamp.toList = (yearText t.clocktime.date.year).toList ++ afterYear t.clocktime := by
  simp only [fileStamp, Date.text, Clocktime.timeText, String.toList_append, toList_padded, afterYear]
  simp

/-- The second that is shown counts on past a minute in a leap second. -/
theorem clocktime_second (t : Timestamp) :
    t.clocktime.second = (t.seconds % 86400).toNat % 60 + t.nanos / 1000000 / 1000 := by
  rw [Nat.div_div_eq_div_mul]
  rfl

theorem clocktime_milli (t : Timestamp) : t.clocktime.nanos / 1000000 = t.nanos / 1000000 % 1000 :=
  Nat.mod_mul_right_div_self t.nanos 1000000 1000

section

variable {t u : Timestamp} (ht : t.nanos < 2000000000) (hu : u.nanos < 2000000000)

theorem clocktime_bounds : t.clocktime.date.month < 10 ^ 2 ∧ t.clocktime.date.day < 10 ^ 2 ∧
    t.clocktime.hour < 10 ^ 2 ∧ t.clocktime.minute < 10 ^ 2 ∧ t.clocktime.nanos / 1000000 < 10 ^ 3 := by
  obtain ⟨-, month, -⟩ := Date.valid_ofDays (t.seconds / 86400)
  have day := Date.day_le (Date.valid_ofDays (t.seconds / 86400))
  refine ⟨Nat.lt_of_le_of_lt month (by decide), Nat.lt_of_le_of_lt day (by decide), ?_, ?_, ?_⟩
  all_goals
    simp only [clocktime]
    omega

include ht

theorem second_lt : t.clocktime.second < 10 ^ 2 := by
  simp only [clocktime]
  omega

theorem length_afterYear : (afterYear t.clocktime).length = 20 := by
  obtain ⟨month, day, hour, minute, milli⟩ := clocktime_bounds (t := t)
  simp only [afterYear, List.length_append, List.length_cons, List.length_nil]
  rw [length_field (by decide) month, length_field (by decide) day, length_field (by decide) hour,
    length_field (by decide) minute, length_field (by decide) (second_lt ht), length_field (by decide) milli]

include hu

theorem afterYear_eq_iff : afterYear t.clocktime = afterYear u.clocktime ↔
    t.clocktime.date.month = u.clocktime.date.month ∧ t.clocktime.date.day = u.clocktime.date.day ∧
    t.clocktime.hour = u.clocktime.hour ∧ t.clocktime.minute = u.clocktime.minute ∧
    t.clocktime.second = u.clocktime.second ∧ t.clocktime.nanos / 1000000 = u.clocktime.nanos / 1000000 := by
  obtain ⟨month, day, hour, minute, milli⟩ := clocktime_bounds (t := t)
  obtain ⟨month', day', hour', minute', milli'⟩ := clocktime_bounds (t := u)
  unfold afterYear
  rw [List.cons_inj_right, field_append_inj (by decide) month month', List.cons_inj_right,
    field_append_inj (by decide) day day', List.cons_inj_right, field_append_inj (by decide) hour hour',
    List.cons_inj_right, field_append_inj (by decide) minute minute', List.cons_inj_right,
    field_append_inj (by decide) (second_lt ht) (second_lt hu), List.cons_inj_right,
    field_append_inj (by decide) milli milli']
  simp

/-- **Two points in time share a stamp just when they agree to the millisecond.** -/
theorem fileStamp_eq_iff : t.fileStamp = u.fileStamp ↔ SameMillisecond t u := by
  unfold SameMillisecond milliseconds
  constructor
  · intro h
    have chars := congrArg String.toList h
    rw [toList_fileStamp, toList_fileStamp] at chars
    obtain ⟨years, rest⟩ := List.append_inj' chars (by rw [length_afterYear ht, length_afterYear hu])
    have year := yearText_injective (String.toList_injective years)
    obtain ⟨month, day, hour, minute, second, milli⟩ := (afterYear_eq_iff ht hu).1 rest
    have days := congrArg Date.toDays (date_eq_of_fields year month day)
    change (Date.ofDays (t.seconds / 86400)).toDays = (Date.ofDays (u.seconds / 86400)).toDays at days
    rw [Date.toDays_ofDays, Date.toDays_ofDays] at days
    rw [clocktime_second, clocktime_second] at second
    rw [clocktime_milli, clocktime_milli] at milli
    simp only [clocktime] at hour minute
    have minutes : t.seconds / 60 = u.seconds / 60 := by omega
    exact ⟨minutes, by omega⟩
  · rintro ⟨minutes, millis⟩
    have date : t.clocktime.date = u.clocktime.date := congrArg Date.ofDays (by omega)
    have rest : afterYear t.clocktime = afterYear u.clocktime := by
      rw [afterYear_eq_iff ht hu, date, clocktime_second, clocktime_second, clocktime_milli, clocktime_milli]
      simp only [clocktime]
      refine ⟨trivial, trivial, ?_⟩
      omega
    apply String.toList_injective
    rw [toList_fileStamp, toList_fileStamp, date, rest]

end

/-! ## The size of a stamp -/

theorem length_field_le {width most n : Nat} (wide : width ≤ most) (pos : 0 < most) (h : n < 10 ^ most) :
    (field width n).length ≤ most := by
  have := length_digitsOf_le pos h
  rw [field, List.length_map, padDigits, List.length_append, List.length_replicate]
  omega

theorem length_yearText_le {y : Int} (h : y.natAbs < 10 ^ 6) : (yearText y).toList.length ≤ 7 := by
  have digits : (field 4 y.natAbs).length ≤ 6 := length_field_le (by decide) (by decide) h
  unfold yearText
  split
  · rw [toList_padded, length_field (by decide) (by omega)]
    decide
  · by_cases negative : y < 0
    · rw [if_pos negative, String.toList_append, toList_padded]
      exact Nat.succ_le_succ digits
    · rw [if_neg negative, String.toList_append, toList_padded]
      exact Nat.succ_le_succ digits

theorem Stamped.length_fileStamp {t : Timestamp} (h : t.Stamped) : t.fileStamp.toList.length = 24 := by
  have year : t.clocktime.date.year.toNat < 10 ^ 4 := by
    have := h.year_nonneg
    have := h.year_le
    omega
  rw [t.toList_fileStamp, List.length_append, length_afterYear h.valid.nanos_lt, yearText,
    if_pos ⟨h.year_nonneg, h.year_le⟩, toList_padded, length_field (by decide) year]

theorem all_yearText (y : Int) : ∀ c ∈ (yearText y).toList, isStampChar c = true ∨ c = '+' := by
  have digits (n : Nat) : ∀ c ∈ field 4 n, isStampChar c = true := List.all_eq_true.1 (all_field 4 n)
  unfold yearText
  split
  · rw [toList_padded]
    exact fun c hc => .inl (digits _ c hc)
  · rw [String.toList_append, toList_padded]
    intro c hc
    rcases List.mem_append.1 hc with sign | digit
    · by_cases negative : y < 0
      · rw [if_pos negative] at sign
        obtain rfl := List.mem_singleton.1 sign
        exact .inl (by decide)
      · rw [if_neg negative] at sign
        exact .inr (List.mem_singleton.1 sign)
    · exact .inl (digits _ c digit)

theorem all_fileStamp (t : Timestamp) : ∀ c ∈ t.fileStamp.toList, isStampChar c = true ∨ c = '+' := by
  have rest : (afterYear t.clocktime).all isStampChar = true := by
    simp only [afterYear, List.all_append, List.all_cons, List.all_nil, all_field]
    decide
  intro c hc
  rw [toList_fileStamp] at hc
  rcases List.mem_append.1 hc with year | behind
  · exact all_yearText _ c year
  · exact .inl (List.all_eq_true.1 rest c behind)

theorem Valid.length_fileStamp_le {t : Timestamp} (h : t.Valid) : t.fileStamp.toList.length ≤ 27 := by
  have year : t.clocktime.date.year.natAbs < 10 ^ 6 := by
    have range := h.day
    obtain ⟨-, month, -⟩ := Date.valid_ofDays (t.seconds / 86400)
    have day := Date.day_le (Date.valid_ofDays (t.seconds / 86400))
    have days := Date.toDays_ofDays (t.seconds / 86400)
    have bounds : -100000000 ≤ dayRange.1 ∧ dayRange.2 ≤ 100000000 := by decide
    rw [inRange, Bool.and_eq_true, decide_eq_true_eq, decide_eq_true_eq] at range
    change (Date.ofDays (t.seconds / 86400)).year.natAbs < 10 ^ 6
    generalize Date.ofDays (t.seconds / 86400) = date at *
    unfold Date.toDays at days
    split at days <;> dsimp only at days <;> omega
  rw [toList_fileStamp, List.length_append, length_afterYear h.nanos_lt]
  exact Nat.add_le_add_right (length_yearText_le year) 20

end BenchSuite.Timestamp
