import BenchSuite.Json.Number
import BenchSuite.Json.Printer
import BenchSuite.Json.Reader
import BenchSuite.Proofs.Decimal.Digits
import BenchSuite.Proofs.Decimal.Search
/-!
# Numerals in JSON

A numeral that has digits before the point, more than one of them only after another digit than zero, and
digits in its power of ten is read as it is written (`readNumeral_chars`).  The numerals of all
floating-point numbers are of this kind (`strict_ofBinary`): the search for the fewest digits never stops
at a zero, unless for the number zero.
-/
namespace BenchSuite

namespace Json

open Decimal

/-! ## Written and read -/

/-- What is read as one numeral, and is written as it was. -/
structure Strict (n : Numeral) : Prop where
  whole : ∃ d ds, n.whole = d :: ds ∧ (d = 0 → ds = [])
  power : ∀ p, n.power = some p → p.digits ≠ []

/-- A text at whose front no digit is. -/
def NoDigit (rest : List Char) : Prop := ∀ c, rest.head? = some c → digit? c = none

/-- A text that does not go on a number before it. -/
def EndsNumber (rest : List Char) : Prop :=
  ∀ c, rest.head? = some c → digit? c = none ∧ c ≠ '.' ∧ c ≠ 'e' ∧ c ≠ 'E'

def digitChars (ds : List Digit) : List Char := ds.map Digit.toChar

def fractionChars (ds : List Digit) : List Char := if ds = [] then [] else '.' :: digitChars ds

def powerChars : Option PowerOfTen → List Char
  | none => []
  | some p => 'e' :: (if p.negative then '-' else '+') :: digitChars p.digits

/-- The characters of a numeral but for its sign. -/
def sizeChars (n : Numeral) : List Char := digitChars n.whole ++ (fractionChars n.fraction ++ powerChars n.power)

theorem numeralChars_eq (n : Numeral) :
    numeralChars n = if n.negative then '-' :: sizeChars n else sizeChars n := by
  obtain ⟨negative, whole, fraction, power⟩ := n
  have sign : (if negative then "-" else "").toList = if negative then ['-'] else [] := by
    cases negative <;> rfl
  have point : (if fraction.isEmpty then "" else "." ++ digitText fraction).toList = fractionChars fraction := by
    cases fraction with
    | nil => rfl
    | cons d ds => simp [fractionChars, digitChars, toList_digitText]
  have ten : ((power.map (PowerOfTen.text true)).getD "").toList = powerChars power := by
    rcases power with - | ⟨minus, ds⟩
    · rfl
    · cases minus <;> simp [PowerOfTen.text, powerChars, digitChars, toList_digitText]
  simp only [numeralChars, Numeral.text, String.toList_append, sign, point, ten, toList_digitText, sizeChars,
    digitChars, List.append_assoc]
  cases negative <;> rfl

theorem spanDigits_chars {rest : List Char} (h : NoDigit rest) : ∀ ds : List Digit,
    spanDigits (digitChars ds ++ rest) = (ds, rest)
  | [] => by
    cases rest with
    | nil => rfl
    | cons c rest =>
      show spanDigits (c :: rest) = _
      rw [spanDigits, h c rfl]
  | d :: ds => by
    have ih := spanDigits_chars h ds
    show spanDigits (d.toChar :: (digitChars ds ++ rest)) = _
    rw [spanDigits, digit?_toChar, ih]

theorem readPowerDigits_chars {rest : List Char} (h : NoDigit rest) (minus : Bool) {ds : List Digit} (ne : ds ≠ []) :
    readPowerDigits minus (digitChars ds ++ rest) = some (some ⟨minus, ds⟩, rest) := by
  obtain ⟨d, ds, rfl⟩ := List.exists_cons_of_ne_nil ne
  rw [readPowerDigits, spanDigits_chars h]

theorem readPower_chars {rest : List Char} (h : EndsNumber rest) {power : Option PowerOfTen}
    (digits : ∀ p, power = some p → p.digits ≠ []) :
    readPower (powerChars power ++ rest) = some (power, rest) := by
  rcases power with - | ⟨minus, ds⟩
  · cases rest with
    | nil => rfl
    | cons c rest =>
      obtain ⟨-, -, small, large⟩ := h c rfl
      show readPower (c :: rest) = _
      show (if c = 'e' ∨ c = 'E' then _ else some (none, c :: rest)) = _
      exact if_neg fun either => either.elim small large
  · have read := readPowerDigits_chars (fun c hc => (h c hc).1) minus (digits _ rfl)
    cases minus <;> exact read

theorem readFraction_chars {rest : List Char} (h : NoDigit rest) (point : rest.head? ≠ some '.') (ds : List Digit) :
    readFraction (fractionChars ds ++ rest) = some (ds, rest) := by
  cases ds with
  | nil =>
    show readFraction rest = _
    unfold readFraction
    split
    · exact absurd rfl point
    · rfl
  | cons d ds =>
    show readFraction ('.' :: (digitChars (d :: ds) ++ rest)) = _
    rw [readFraction, spanDigits_chars h]

theorem noDigit_powerChars {rest : List Char} (h : EndsNumber rest) (power : Option PowerOfTen) :
    NoDigit (powerChars power ++ rest) ∧ (powerChars power ++ rest).head? ≠ some '.' := by
  cases power with
  | none => exact ⟨fun c hc => (h c hc).1, fun hc => (h '.' hc).2.1 rfl⟩
  | some p =>
    refine ⟨fun c hc => ?_, ?_⟩
    · obtain rfl := Option.some.inj hc
      rfl
    · rintro ⟨⟩

theorem noDigit_fractionChars {rest : List Char} (h : EndsNumber rest) (fraction : List Digit)
    (power : Option PowerOfTen) : NoDigit (fractionChars fraction ++ (powerChars power ++ rest)) := by
  cases fraction with
  | nil => exact (noDigit_powerChars h power).1
  | cons d ds =>
    intro c hc
    obtain rfl := Option.some.inj hc
    rfl

/-- **A strict numeral is read as it was written.** -/
theorem readNumeral_chars {n : Numeral} (strict : Strict n) {rest : List Char} (h : EndsNumber rest) :
    readNumeral n.negative (sizeChars n ++ rest) = some (n, rest) := by
  obtain ⟨negative, whole, fraction, power⟩ := n
  obtain ⟨d, ds, first, alone⟩ := strict.whole
  dsimp only at first
  subst first
  obtain ⟨noDigit, noPoint⟩ := noDigit_powerChars h power
  have whole : readWhole (digitChars (d :: ds) ++ (fractionChars fraction ++ (powerChars power ++ rest))) =
      some (d :: ds, fractionChars fraction ++ (powerChars power ++ rest)) := by
    rw [readWhole, spanDigits_chars (noDigit_fractionChars h fraction power)]
    exact if_neg fun zero => zero.2 (alone zero.1)
  rw [sizeChars, List.append_assoc, List.append_assoc, readNumeral, whole]
  simp only [Option.bind_eq_bind, Option.bind_some]
  rw [readFraction_chars noDigit noPoint]
  simp only [Option.bind_some]
  rw [readPower_chars h strict.power]
  rfl

/-! ## The numerals that are written -/

theorem eq_zero_of_digitsOf {n : Nat} {ds : List Digit} (h : digitsOf n = 0 :: ds) : n = 0 ∧ ds = [] := by
  rcases Nat.eq_zero_or_pos n with rfl | pos
  · exact ⟨rfl, (List.cons.inj (h.symm.trans (digitsOf_of_lt (by decide)))).2⟩
  · have first := head?_digitsOf n pos
    rw [h] at first
    exact absurd rfl first

theorem strict_nat (n : Nat) : Strict ⟨false, digitsOf n, [], none⟩ where
  whole := by
    obtain ⟨d, ds, first⟩ := List.exists_cons_of_ne_nil (digitsOf_ne_nil n)
    refine ⟨d, ds, first, ?_⟩
    rintro rfl
    exact (eq_zero_of_digitsOf first).2
  power p h := by cases h

/-- A scaled number that is zero in one way only. -/
def Plain (d : Scaled) : Prop := d.digits = 0 → d.exponent = 0

theorem strict_inPlace (negative pointZero : Bool) {d : Scaled} (plain : Plain d) :
    Strict (.inPlace negative pointZero d) where
  whole := by
    obtain ⟨c, cs, first⟩ := List.exists_cons_of_ne_nil (digitsOf_ne_nil d.digits)
    by_cases low : ((digitsOf d.digits).length : Int) + d.exponent ≤ 0
    · exact ⟨0, [], if_pos low, fun _ => rfl⟩
    · obtain ⟨k, point⟩ : ∃ k, (((digitsOf d.digits).length : Int) + d.exponent).toNat = k + 1 :=
        ⟨(((digitsOf d.digits).length : Int) + d.exponent).toNat - 1, by omega⟩
      refine ⟨c, cs.take k ++ List.replicate d.exponent.toNat 0, ?_, ?_⟩
      · refine (if_neg low).trans ?_
        rw [point, first, List.take_succ_cons, List.cons_append]
      · rintro rfl
        obtain ⟨zero, rfl⟩ := eq_zero_of_digitsOf first
        rw [plain zero, List.take_nil]
        rfl
  power p h := by cases h

theorem strict_scientific (negative : Bool) (d : Scaled) : Strict (.scientific negative d) where
  whole := by
    obtain ⟨c, cs, first⟩ := List.exists_cons_of_ne_nil (digitsOf_ne_nil d.digits)
    refine ⟨c, [], ?_, fun _ => rfl⟩
    rw [Numeral.scientific, first]
    rfl
  power p h := by
    obtain rfl := Option.some.inj h
    exact digitsOf_ne_nil _

/-- **Zero reads back as no other number.** -/
theorem readsBack_zero {x : Binary} (h : x.mantissa ≠ 0) {scale : Nat × Nat} (pos : 0 < scale.2) :
    readsBack x scale 0 = false := by
  have low : 0 < (4 * x.mantissa - if x.narrowBelow then 1 else 2) * scale.2 := by
    refine Nat.mul_pos ?_ pos
    split <;> omega
  simp only [readsBack, Nat.zero_mul]
  split
  · rw [decide_eq_false (Nat.not_le.2 low), Bool.false_and]
  · rw [decide_eq_false (Nat.not_lt_zero _), Bool.false_and]

theorem gridHit_pos {tie : Tie} {x : Binary} (h : x.mantissa ≠ 0) {k : Int} {d : Nat} (hit : gridHit tie x k = some d) :
    0 < d := by
  have back := readsBack_gridHit hit
  rcases Nat.eq_zero_or_pos d with rfl | pos
  · rw [readsBack_zero h (gridScale_pos _ _)] at back
    cases back
  · exact pos

theorem digits_strip_pos : ∀ (fuel : Nat) {d : Scaled}, 0 < d.digits → 0 < (d.strip fuel).digits
  | 0, _, h => h
  | fuel + 1, d, h => by
    unfold Scaled.strip
    split
    · rename_i more
      exact digits_strip_pos fuel (Nat.div_pos (Nat.le_of_dvd h (Nat.dvd_of_mod_eq_zero more.2)) (by decide))
    · exact h

theorem plain_shortest (tie : Tie) (x : Binary) : Plain (shortest tie x) := by
  unfold shortest
  split
  · exact fun _ => rfl
  · rename_i h
    rcases firstHit_cases tie x 24 (coarsestGrid x) with none | ⟨d, k, hit, found⟩
    · rw [none]
      exact fun _ => rfl
    · rw [found]
      exact fun zero => absurd zero (Nat.ne_of_gt (digits_strip_pos 24 (gridHit_pos h hit)))

/-- **The numerals of floating-point numbers are strict.** -/
theorem strict_ofBinary (style : Style) (x : Binary) : Strict (.ofBinary style x) := by
  have plain := plain_shortest style.tie x
  unfold Numeral.ofBinary Numeral.ofScaled
  split
  · exact strict_inPlace _ _ plain
  · dsimp only
    split
    · exact strict_inPlace _ _ plain
    · exact strict_scientific _ _

end Json
end BenchSuite
