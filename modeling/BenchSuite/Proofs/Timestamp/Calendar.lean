import BenchSuite.Timestamp
/-!
# The calendar

Days and dates stand for one another: the date of a day exists (`valid_ofDays`) and is counted back to the
same day (`toDays_ofDays`).  Both ways keep the order (`toDays_lt`, `ofDays_before`), over the ends of
months, leap years and centuries.  As in the definitions, years are counted from March here.
-/
namespace BenchSuite.Date

/-! ## Years of an era of 400 years -/

def yearOfEra (day : Int) : Int := (day - day / 1460 + day / 36524 - day / 146096) / 365

def startOfYear (y : Int) : Int := 365 * y + y / 4 - y / 100

theorem yearOfEra_range {day : Int} (h0 : 0 ≤ day) (h1 : day < 146097) :
    0 ≤ yearOfEra day ∧ yearOfEra day < 400 := by
  unfold yearOfEra
  omega

/-- A day lies in its year; a year has a 366th day only if the next February has 29 days. -/
theorem dayOfYear_range {day y : Int} (h0 : 0 ≤ day) (h1 : day < 146097) (hy : yearOfEra day = y) :
    startOfYear y ≤ day ∧ (day - startOfYear y ≤ 364 ∨
      day - startOfYear y = 365 ∧ (y + 1) % 4 = 0 ∧ ((y + 1) % 100 = 0 → y = 399)) := by
  have centuries : day / 36524 = 0 ∨ day / 36524 = 1 ∨ day / 36524 = 2 ∨ day / 36524 = 3 ∨
    day / 36524 = 4 := by omega
  unfold yearOfEra at hy
  unfold startOfYear
  have hundreds : y / 100 = 0 ∨ y / 100 = 1 ∨ y / 100 = 2 ∨ y / 100 = 3 := by omega
  -- the leap day of a span of four years falls at the end of its last one
  have ones : y % 4 = 0 ∨ y % 4 = 1 ∨ y % 4 = 2 ∨ y % 4 = 3 := by omega
  rcases centuries with h | h | h | h | h <;> rw [h] at hy <;> rcases ones with _ | _ | _ | _ <;> omega

/-! ## Months of a year -/

def monthOfYear (day : Int) : Int := (5 * day + 2) / 153

def startOfMonth (m : Int) : Int := (153 * m + 2) / 5

theorem monthOfYear_range {day : Int} (h0 : 0 ≤ day) (h1 : day ≤ 365) :
    0 ≤ monthOfYear day ∧ monthOfYear day ≤ 11 := by
  unfold monthOfYear
  omega

theorem startOfMonth_le (day : Int) : startOfMonth (monthOfYear day) ≤ day := by
  unfold startOfMonth monthOfYear
  omega

/-- The months from March to January have their lengths; February ends with the year. -/
theorem dayOfMonth_le {day m : Int} (h0 : 0 ≤ day) (h1 : day ≤ 365) (hm : monthOfYear day = m) :
    day - startOfMonth m ≤ 29 ∨ day - startOfMonth m = 30 ∧
      (m = 0 ∨ m = 2 ∨ m = 4 ∨ m = 5 ∨ m = 7 ∨ m = 9 ∨ m = 10) := by
  have range := monthOfYear_range h0 h1
  unfold monthOfYear at hm
  unfold startOfMonth
  omega

/-! ## Days to dates and back -/

/-- What the date of a day is made of. -/
theorem ofDays_eq (n : Int) : ∃ era y m d : Int, 0 ≤ y ∧ y < 400 ∧ 0 ≤ m ∧ m ≤ 11 ∧ 0 ≤ d ∧
    n + 719468 = 146097 * era + startOfYear y + startOfMonth m + d ∧
    (d ≤ 29 ∨ d = 30 ∧ (m = 0 ∨ m = 2 ∨ m = 4 ∨ m = 5 ∨ m = 7 ∨ m = 9 ∨ m = 10)) ∧
    (startOfMonth m + d ≤ 364 ∨
      startOfMonth m + d = 365 ∧ (y + 1) % 4 = 0 ∧ ((y + 1) % 100 = 0 → y = 399)) ∧
    ofDays n = ⟨if m < 10 then y + era * 400 else y + era * 400 + 1,
      (if m < 10 then m + 3 else m - 9).toNat, (d + 1).toNat⟩ := by
  have h0 : 0 ≤ (n + 719468) % 146097 := by omega
  have h1 : (n + 719468) % 146097 < 146097 := by omega
  obtain ⟨y, hy⟩ : ∃ y, yearOfEra ((n + 719468) % 146097) = y := ⟨_, rfl⟩
  obtain ⟨start, last⟩ := dayOfYear_range h0 h1 hy
  obtain ⟨day, hday⟩ : ∃ day, (n + 719468) % 146097 - startOfYear y = day := ⟨_, rfl⟩
  have d0 : 0 ≤ day := by omega
  have d1 : day ≤ 365 := by omega
  obtain ⟨m, hm⟩ : ∃ m, monthOfYear day = m := ⟨_, rfl⟩
  have rangeY := yearOfEra_range h0 h1
  have rangeM := monthOfYear_range d0 d1
  have startM := startOfMonth_le day
  have month := dayOfMonth_le d0 d1 hm
  rw [hm] at rangeM startM
  rw [hy] at rangeY
  refine ⟨(n + 719468) / 146097, y, m, day - startOfMonth m, rangeY.1, rangeY.2, rangeM.1, rangeM.2,
    by omega, by omega, month, by omega, ?_⟩
  unfold yearOfEra at hy
  unfold startOfYear at hday
  unfold monthOfYear at hm
  unfold startOfMonth
  simp only [ofDays, hy, hday, hm]
  have early : (if m < 10 then m + 3 else m - 9).toNat ≤ 2 ↔ ¬ m < 10 := by split <;> omega
  simp only [early]
  by_cases h : m < 10 <;> simp only [h, not_true, not_false_iff, if_true, if_false]

theorem toDays_ofDays (n : Int) : (ofDays n).toDays = n := by
  obtain ⟨era, y, m, d, y0, y1, m0, m1, d0, hn, -, -, h⟩ := ofDays_eq n
  unfold startOfYear startOfMonth at hn
  rw [h]
  by_cases hm : m < 10
  · have hm' : ¬ (m + 3).toNat ≤ 2 := by omega
    simp only [toDays, hm, hm', if_true, if_false]
    omega
  · have hm' : (m - 9).toNat ≤ 2 := by omega
    simp only [toDays, hm, hm', if_true, if_false]
    omega

theorem isLeapYear_iff (y : Int) : isLeapYear y = true ↔ y % 4 = 0 ∧ y % 100 ≠ 0 ∨ y % 400 = 0 := by
  simp [isLeapYear]

theorem monthLength_cases (y : Int) (m : Nat) :
    m = 2 ∧ (y % 4 = 0 ∧ y % 100 ≠ 0 ∨ y % 400 = 0) ∧ monthLength y m = 29 ∨
    m = 2 ∧ ¬ (y % 4 = 0 ∧ y % 100 ≠ 0 ∨ y % 400 = 0) ∧ monthLength y m = 28 ∨
    (m = 4 ∨ m = 6 ∨ m = 9 ∨ m = 11) ∧ monthLength y m = 30 ∨
    m ≠ 2 ∧ ¬ (m = 4 ∨ m = 6 ∨ m = 9 ∨ m = 11) ∧ monthLength y m = 31 := by
  unfold monthLength
  rw [← isLeapYear_iff]
  by_cases february : m = 2
  · cases isLeapYear y <;> simp [february]
  · by_cases short : m = 4 ∨ m = 6 ∨ m = 9 ∨ m = 11 <;> simp [february, short]

theorem day_le {a : Date} (h : a.Valid) : a.day ≤ 31 := by
  obtain ⟨-, -, -, days⟩ := h
  have := monthLength_cases a.year a.month
  omega

theorem valid_ofDays (n : Int) : (ofDays n).Valid := by
  obtain ⟨era, y, m, d, y0, y1, m0, m1, d0, -, month, february, h⟩ := ofDays_eq n
  rw [h]
  unfold startOfMonth at february
  by_cases hm : m < 10
  · have length := monthLength_cases (y + era * 400) (m + 3).toNat
    simp only [Valid, hm, if_true]
    omega
  · have length := monthLength_cases (y + era * 400 + 1) (m - 9).toNat
    simp only [Valid, hm, if_false]
    omega

/-! ## Order -/

/-- A date comes before another: by year, then by month, then by day. -/
def Before (a b : Date) : Prop :=
  a.year < b.year ∨ a.year = b.year ∧ (a.month < b.month ∨ a.month = b.month ∧ a.day < b.day)

theorem before_or_eq_or_before (a b : Date) : Before a b ∨ a = b ∨ Before b a := by
  obtain ⟨y, m, d⟩ := a
  obtain ⟨y', m', d'⟩ := b
  simp only [Before, Date.mk.injEq]
  omega

/-- The first day of a month. -/
def monthStart (y : Int) (m : Nat) : Int := toDays ⟨y, m, 1⟩

theorem toDays_eq (a : Date) : a.toDays = monthStart a.year a.month + a.day - 1 := by
  simp only [monthStart, toDays]
  omega

theorem monthStart_le {y : Int} {m n : Nat} (h0 : 1 ≤ m) (h1 : m ≤ n) (h2 : n ≤ 12) :
    monthStart y m ≤ monthStart y n := by
  simp only [monthStart, toDays]
  split <;> split <;> omega

theorem monthStart_succ {y : Int} {m : Nat} (h0 : 1 ≤ m) (h1 : m < 12) :
    monthStart y (m + 1) = monthStart y m + monthLength y m := by
  have length := monthLength_cases y m
  simp only [monthStart, toDays]
  have months : m = 1 ∨ m = 2 ∨ m = 3 ∨ m = 4 ∨ m = 5 ∨ m = 6 ∨ m = 7 ∨ m = 8 ∨ m = 9 ∨ m = 10 ∨
    m = 11 := by omega
  rcases months with h | h | h | h | h | h | h | h | h | h | h <;> subst h <;> simp <;> omega

theorem yearStart_le {y z : Int} (h : y < z) : monthStart y 12 + 31 ≤ monthStart z 1 := by
  simp only [monthStart, toDays]
  omega

theorem toDays_lt {a b : Date} (ha : a.Valid) (hb : b.Valid) (h : Before a b) : a.toDays < b.toDays := by
  obtain ⟨a0, a1, a2, a3⟩ := ha
  obtain ⟨b0, b1, b2, b3⟩ := hb
  rw [toDays_eq, toDays_eq]
  rcases h with years | ⟨year, months | ⟨month, days⟩⟩
  · have := yearStart_le years
    have := monthStart_le (y := b.year) (Nat.le_refl 1) b0 b1
    by_cases december : a.month = 12
    · have : monthLength a.year a.month = 31 := by rw [december]; rfl
      have : monthStart a.year a.month = monthStart a.year 12 := by rw [december]
      omega
    · have next := monthStart_succ (y := a.year) a0 (by omega)
      have := monthStart_le (y := a.year) (by omega) (by omega : a.month + 1 ≤ 12) (Nat.le_refl 12)
      omega
  · have next := monthStart_succ (y := a.year) a0 (by omega)
    have := monthStart_le (y := a.year) (by omega) (by omega : a.month + 1 ≤ b.month) b1
    rw [← year]
    omega
  · rw [← year, ← month]
    omega

theorem ofDays_before {m n : Int} (h : m < n) : Before (ofDays m) (ofDays n) := by
  rcases before_or_eq_or_before (ofDays m) (ofDays n) with before | same | after
  · exact before
  · have := congrArg toDays same
    rw [toDays_ofDays, toDays_ofDays] at this
    omega
  · have := toDays_lt (valid_ofDays n) (valid_ofDays m) after
    rw [toDays_ofDays, toDays_ofDays] at this
    omega

end BenchSuite.Date
