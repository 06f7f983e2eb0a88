import BenchSuite.Proofs.Decimal.Products
import BenchSuite.Proofs.Json.Members
import BenchSuite.Report
/-!
# Durations

The unit of a duration is chosen by the duration itself, and the number before it is rounded afterwards.  Rounding keeps
order, so of the durations that are shown in a unit those up to one just below the next unit are shown as less than a
thousand, and all from there on as a thousand (`shows_below_thousand_iff`).
-/
namespace BenchSuite

open Decimal

/-! ## Numbers with their units -/

namespace Decimal.Numeral

/-- The number that a numeral without a power of ten stands for. -/
def plainValue (n : Numeral) : ℚ :=
  (if n.negative then -1 else 1) * ofDigits (n.whole ++ n.fraction) / 10 ^ n.fraction.length

/-- The numeral of a number of units of the last place. -/
def fixed (negative : Bool) (places n : ℕ) : Numeral where
  negative := negative
  whole := digitsOf (n / 10 ^ places)
  fraction := if places = 0 then [] else padDigits places (n % 10 ^ places)
  power := none

variable (negative : Bool) (places n : ℕ)

theorem strict_fixed : Json.Strict (fixed negative places n) := ⟨(Json.strict_nat _).whole, fun _ h => by cases h⟩

theorem length_fraction {places : ℕ} (some : places ≠ 0) : (padDigits places (n % 10 ^ places)).length = places :=
  length_padDigits (Nat.pos_of_ne_zero some) (Nat.mod_lt n (Nat.pow_pos (show 0 < 10 by decide)))

theorem plainValue_fixed : (fixed negative places n).plainValue = (if negative then -1 else 1) * n / 10 ^ places := by
  by_cases whole : places = 0
  · subst whole
    simp [plainValue, fixed, ofDigits_digitsOf]
  · have length := length_fraction n whole
    have value : ofDigits (digitsOf (n / 10 ^ places) ++ padDigits places (n % 10 ^ places)) = n := by
      rw [ofDigits_append, ofDigits_digitsOf, ofDigits_padDigits, length]
      exact Nat.div_add_mod' n (10 ^ places)
    simp only [plainValue, fixed, if_neg whole, length, value]

theorem text_fixed (b : Binary) : (fixed negative places (scaledRound places b)).text false =
    (if negative then "-" else "") ++ fixedDigits places b := by
  unfold fixed text fixedDigits
  by_cases whole : places = 0
  · simp [whole]
  · have some : padDigits places (scaledRound places b % 10 ^ places) ≠ [] := by
      intro none
      have length := length_fraction (scaledRound places b) whole
      rw [none] at length
      exact whole length.symm
    simp only [if_neg whole, List.isEmpty_iff, if_neg some]
    cases negative <;> simp [String.append_assoc]

end Decimal.Numeral

/-- **A text shows a number of a unit**: a numeral without a power of ten, and the unit after it. -/
def Shows (text unit : String) (v : ℚ) : Prop :=
  ∃ n : Numeral, Json.Strict n ∧ n.power = none ∧ text = n.text false ++ unit ∧ v = n.plainValue

/-- A text shows one number of a unit at most. -/
theorem Shows.unique {text unit : String} {v v' : ℚ} (h : Shows text unit v) (h' : Shows text unit v') : v = v' := by
  obtain ⟨n, strict, plain, rfl, rfl⟩ := h
  obtain ⟨n', strict', plain', same, rfl⟩ := h'
  have chars : ∀ {n : Numeral}, n.power = none → Json.numeralChars n = (n.text false).toList := by
    rintro ⟨negative, whole, fraction, -⟩ rfl
    rfl
  have read := Json.ofChars?_of_reads (Json.reads_number strict)
  have read' := Json.ofChars?_of_reads (Json.reads_number strict')
  have texts : n.text false = n'.text false := by
    have := congrArg String.toList same
    rw [String.toList_append, String.toList_append, List.append_cancel_right_eq] at this
    exact String.toList_inj.1 this
  rw [chars plain, texts, ← chars plain', read'] at read
  obtain rfl := Json.number.inj (Option.some.inj read)
  rfl

/-- **A text to a fixed number of places** shows the number that was rounded. -/
theorem shows_fixedText {x : Float} {b : Binary} (h : readFloat x = .finite b) (places : ℕ) (unit : String) :
    Shows (fixedText places false x ++ unit) unit
      ((if b.negative then -1 else 1) * scaledRound places b / 10 ^ places) := by
  refine ⟨.fixed b.negative places (scaledRound places b), Numeral.strict_fixed _ _ _, rfl, ?_,
    (Numeral.plainValue_fixed _ _ _).symm⟩
  rw [Numeral.text_fixed, fixedText, h]
  rfl

/-! ## Units -/

/-- A unit that has a larger one above it. -/
inductive SmallUnit where
  | nanosecond
  | microsecond
  | millisecond
deriving DecidableEq, Repr

namespace SmallUnit

def suffix : SmallUnit → String
  | nanosecond => "ns"
  | microsecond => "μs"
  | millisecond => "ms"

/-- Where the next unit begins. -/
def limit : SmallUnit → Float
  | nanosecond => 0.001
  | microsecond => 1.0
  | millisecond => 1000.0

/-- The places that are shown. -/
def places : SmallUnit → ℕ
  | nanosecond => 0
  | microsecond => 2
  | millisecond => 2

/-- A duration in the unit. -/
def measure (ms : Float) : SmallUnit → Float
  | nanosecond => ms * 1000000.0
  | microsecond => ms * 1000.0
  | millisecond => ms

/-- The unit that a duration is shown in, if it is less than a second. -/
def choose? (ms : Float) : Option SmallUnit :=
  if ms < 0.001 then some nanosecond
  else if ms < 1.0 then some microsecond
  else if ms < 1000.0 then some millisecond
  else none

/-- **Where the rounded number becomes a thousand**, a little before the next unit begins. -/
def tipping : SmallUnit → Float
  | nanosecond => 0.0009995
  | microsecond => 0.999995
  | millisecond => 999.995

/-- The last duration before that. -/
def beforeTipping : SmallUnit → Float
  | nanosecond => 0.0009994999999999997
  | microsecond => 0.9999949999999999
  | millisecond => 999.9949999999999

variable {u : SmallUnit} {ms : Float}

theorem durationText_eq (h : choose? ms = some u) :
    ms < u.limit ∧ durationText ms = fixedText u.places false (u.measure ms) ++ u.suffix := by
  unfold choose? at h
  unfold durationText
  by_cases short : ms < 0.001
  · rw [if_pos short] at h ⊢
    obtain rfl := Option.some.inj h
    exact ⟨short, rfl⟩
  rw [if_neg short] at h ⊢
  by_cases medium : ms < 1.0
  · rw [if_pos medium] at h ⊢
    obtain rfl := Option.some.inj h
    exact ⟨medium, rfl⟩
  rw [if_neg medium] at h ⊢
  by_cases long : ms < 1000.0
  · rw [if_pos long] at h ⊢
    obtain rfl := Option.some.inj h
    exact ⟨long, rfl⟩
  · rw [if_neg long] at h
    cases h

/-! ## The number that is shown -/

/-- The number that is shown, in units of its last place. -/
def shown (u : SmallUnit) (ms : Float) : ℕ :=
  match readFloat (u.measure ms) with
  | .finite p => scaledRound u.places p
  | _ => 0

variable {x y : Float} {a b : Binary}

/-- What becomes of a number of milliseconds in the unit. -/
def Measures : SmallUnit → ℚ → ℚ → Prop
  | nanosecond, v, w => Rounded (v * 1000000) w
  | microsecond, v, w => Rounded (v * 1000) w
  | millisecond, v, w => w = v

theorem Measures.mono {u : SmallUnit} {v v' w w' : ℚ} (h : u.Measures v w) (h' : u.Measures v' w') (le : v ≤ v') :
    w ≤ w' := by
  cases u with
  | nanosecond => exact Rounded.mono h h' (by linarith)
  | microsecond => exact Rounded.mono h h' (by linarith)
  | millisecond =>
    obtain rfl : w = v := h
    obtain rfl : w' = v' := h'
    exact le

theorem readFloat_measure (u : SmallUnit) (hx : readFloat x = .finite a) (bounded : a.exponent ≤ 0) :
    ∃ p, readFloat (u.measure x) = .finite p ∧ p.negative = a.negative ∧ u.Measures a.value p.value := by
  cases u with
  | nanosecond =>
    have factor : readFloat (1000000.0 : Float) = .finite ⟨false, 1000000 * 2 ^ 33, -33, false⟩ := by decide +kernel
    obtain ⟨p, read, negative, rounded⟩ := readFloat_mul hx factor (by norm_num) (by dsimp only; omega)
    have million : (⟨false, 1000000 * 2 ^ 33, -33, false⟩ : Binary).value = 1000000 := by norm_num [Binary.value]
    rw [million] at rounded
    exact ⟨p, read, by rw [negative, Bool.bne_false], rounded⟩
  | microsecond =>
    have factor : readFloat (1000.0 : Float) = .finite ⟨false, 1000 * 2 ^ 43, -43, false⟩ := by decide +kernel
    obtain ⟨p, read, negative, rounded⟩ := readFloat_mul hx factor (by norm_num) (by dsimp only; omega)
    have thousand : (⟨false, 1000 * 2 ^ 43, -43, false⟩ : Binary).value = 1000 := by norm_num [Binary.value]
    rw [thousand] at rounded
    exact ⟨p, read, by rw [negative, Bool.bne_false], rounded⟩
  | millisecond => exact ⟨a, hx, rfl, rfl⟩

/-- **A longer duration is not shown as less.** -/
theorem shown_mono (u : SmallUnit) (hx : readFloat x = .finite a) (hy : readFloat y = .finite b)
    (le : a.value ≤ b.value) (bounded : a.exponent ≤ 0) (bounded' : b.exponent ≤ 0) : u.shown x ≤ u.shown y := by
  obtain ⟨p, hp, -, measured⟩ := readFloat_measure u hx bounded
  obtain ⟨q, hq, -, measured'⟩ := readFloat_measure u hy bounded'
  rw [shown, shown, hp, hq]
  exact scaledRound_mono u.places (measured.mono measured' le)

/-! ## The turn to a thousand -/

theorem readFloat_limit (u : SmallUnit) : ∃ c : Binary, readFloat u.limit = .finite c ∧ c.negative = false ∧
    c.exponent ≤ 0 := by
  cases u
  · exact ⟨⟨false, 4611686018427388, -62, false⟩, by decide +kernel, rfl, by decide⟩
  · exact ⟨⟨false, 2 ^ 52, -52, true⟩, by decide +kernel, rfl, by decide⟩
  · exact ⟨⟨false, 8796093022208000, -43, false⟩, by decide +kernel, rfl, by decide⟩

/-- The two durations are neighbours. -/
theorem readFloat_tipping (u : SmallUnit) : ∃ (m : ℕ) (q : ℤ), 2 ^ 52 ≤ m ∧ q ≤ 0 ∧
    readFloat u.beforeTipping = .finite ⟨false, m, q, false⟩ ∧ readFloat u.tipping = .finite ⟨false, m + 1, q, false⟩ := by
  cases u
  · exact ⟨4609380175418173, -62, by decide, by decide, by decide +kernel, by decide +kernel⟩
  · exact ⟨9007154218744717, -53, by decide, by decide, by decide +kernel, by decide +kernel⟩
  · exact ⟨8796049041742888, -43, by decide, by decide, by decide +kernel, by decide +kernel⟩

theorem shown_tipping (u : SmallUnit) : u.shown u.beforeTipping < 1000 * 10 ^ u.places ∧
    u.shown u.tipping = 1000 * 10 ^ u.places ∧ u.shown u.limit = 1000 * 10 ^ u.places ∧ u.shown 0.0 = 0 := by
  cases u <;> decide +kernel

section Chosen

variable (read : readFloat ms = .finite a) (nonneg : a.NonNeg) (chosen : choose? ms = some u)
include read nonneg chosen

/-- A duration that is shown in a unit is below the next one, and so is its exponent. -/
theorem below_limit : u.shown ms ≤ 1000 * 10 ^ u.places ∧ a.exponent ≤ 0 := by
  obtain ⟨c, limit, positive, exponent⟩ := readFloat_limit u
  have positive : c.NonNeg := fun negative => by
    rw [positive] at negative
    cases negative
  have lt := (lt_iff_value_lt read limit nonneg positive).1 (durationText_eq chosen).1
  have bounded : a.exponent ≤ 0 := by
    have := (Binary.value_lt_iff (canonical_of_readFloat read) (canonical_of_readFloat limit)).1 lt
    omega
  rw [← (shown_tipping u).2.2.1]
  exact ⟨shown_mono u read limit lt.le bounded exponent, bounded⟩

theorem shown_lt_iff : (u.shown ms < 1000 * 10 ^ u.places ↔ ms < u.tipping) ∧ (¬ ms < u.tipping ↔ u.tipping ≤ ms) := by
  obtain ⟨m, q, full, low, before, tipping⟩ := readFloat_tipping u
  obtain ⟨less, turned, -, -⟩ := shown_tipping u
  obtain ⟨-, bounded⟩ := below_limit read nonneg chosen
  have positive : (⟨false, m + 1, q, false⟩ : Binary).NonNeg := by rintro ⟨⟩
  refine ⟨?_, not_lt_iff_le read tipping nonneg positive⟩
  rw [lt_iff_value_lt read tipping nonneg positive]
  constructor
  · intro below
    by_contra after
    have := shown_mono u tipping read (not_lt.1 after) low bounded
    omega
  · intro lt
    have le := Binary.value_le_of_lt_succ (canonical_of_readFloat read) (canonical_of_readFloat tipping) full lt
    have := shown_mono u read before le bounded low
    omega

theorem shows_shown : Shows (durationText ms) u.suffix (u.shown ms / 10 ^ u.places) := by
  obtain ⟨-, bounded⟩ := below_limit read nonneg chosen
  obtain ⟨p, measured, negative, -⟩ := readFloat_measure u read bounded
  have number : (u.shown ms : ℚ) = (if p.negative then -1 else 1) * scaledRound u.places p := by
    have shown : u.shown ms = scaledRound u.places p := by rw [shown, measured]
    cases sign : p.negative with
    | false => rw [shown, if_neg Bool.false_ne_true, one_mul]
    | true =>
      -- what has a sign is a zero
      have zero : readFloat (0.0 : Float) = .finite ⟨false, 0, -1074, false⟩ := by decide +kernel
      have none : a.value ≤ (⟨false, 0, -1074, false⟩ : Binary).value := by
        rw [Binary.value_eq_zero (nonneg (negative.symm.trans sign))]
        norm_num [Binary.value]
      have least := shown_mono u read zero none bounded (by decide)
      rw [(shown_tipping u).2.2.2, shown] at least
      rw [shown, Nat.le_zero.1 least, Nat.cast_zero, mul_zero]
  rw [(durationText_eq chosen).2, number]
  exact shows_fixedText measured u.places u.suffix

end Chosen

/-- **Where a duration is shown as a thousand** of a unit that has a larger one above it.  The number is never more, and
it is less just up to the last duration before the tipping point; from there to where the next unit begins, it is a
thousand. -/
theorem shows_below_thousand_iff (finite : ms.isFinite = true) (nonneg : 0.0 ≤ ms) (chosen : choose? ms = some u) :
    ∃ v : ℚ, (∀ v', Shows (durationText ms) u.suffix v' ↔ v' = v) ∧ 0 ≤ v ∧ v ≤ 1000 ∧
      (v < 1000 ↔ ms < u.tipping) ∧ (v = 1000 ↔ u.tipping ≤ ms) := by
  obtain ⟨a, read⟩ := (Json.isFinite_float_iff ms).1 finite
  have nonneg := nonNeg_of_le read nonneg
  have shows := shows_shown read nonneg chosen
  obtain ⟨less, line⟩ := shown_lt_iff read nonneg chosen
  have unit : (0 : ℚ) < 10 ^ u.places := by positivity
  have most : (u.shown ms : ℚ) / 10 ^ u.places ≤ 1000 := by
    rw [div_le_iff₀ unit]
    exact_mod_cast (below_limit read nonneg chosen).1
  have below : (u.shown ms : ℚ) / 10 ^ u.places < 1000 ↔ ms < u.tipping := by
    rw [← less, div_lt_iff₀ unit]
    exact_mod_cast Iff.rfl
  refine ⟨u.shown ms / 10 ^ u.places, fun v' => ⟨fun other => other.unique shows, ?_⟩, by positivity, most, below, ?_⟩
  · rintro rfl
    exact shows
  · rw [← line, ← below, not_lt]
    exact ⟨fun same => same.ge, fun more => le_antisymm most more⟩

/-- Just below a millisecond, a thousand microseconds are shown. -/
theorem shows_below_thousand_iff_microseconds : choose? 0.999999 = some microsecond ∧
    ∀ v, Shows (durationText 0.999999) "μs" v ↔ v = 1000 := by
  have finite : (0.999999 : Float).isFinite = true := by decide +kernel
  have chosen : choose? 0.999999 = some microsecond := by decide +kernel
  obtain ⟨v, unique, -, -, -, thousand⟩ := shows_below_thousand_iff finite (by decide +kernel) chosen
  obtain rfl : v = 1000 := thousand.2 (by decide +kernel)
  exact ⟨chosen, unique⟩

/-- So not every duration is shown as less than a thousand of a unit that has a larger one above it. -/
theorem not_every_duration_below_thousand : ¬ ∀ (ms : Float) (u : SmallUnit) (v : ℚ), ms.isFinite = true → 0.0 ≤ ms →
    choose? ms = some u → Shows (durationText ms) u.suffix v → v < 1000 := by
  intro all
  have shows : Shows (durationText 0.999999) "μs" 1000 :=
    ⟨⟨false, [1, 0, 0, 0], [0, 0], none⟩, ⟨⟨1, [0, 0, 0], rfl, by decide⟩, fun _ h => by cases h⟩, rfl, by decide +kernel,
      by norm_num [Numeral.plainValue, ofDigits]⟩
  exact absurd (all 0.999999 microsecond 1000 (by decide +kernel) (by decide +kernel) (by decide +kernel) shows) (lt_irrefl _)

end SmallUnit
end BenchSuite
