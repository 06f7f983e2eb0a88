import Mathlib.Algebra.Group.Nat.Defs
import BenchSuite.Decimal.Fixed
import BenchSuite.Text.Digits
/-!
# Digits of a number

`digitsOf` and `ofDigits` undo one another (`ofDigits_digitsOf`); the first digit is a zero only for the
number zero.  Numbers filled up to one width have as many characters each, and these sort as the numbers
do (`map_toChar_lt`).
-/
namespace BenchSuite.Decimal

/-! ## Taking a number apart -/

theorem digitsAux_acc : ∀ (fuel n : Nat) (acc : List Digit),
    digitsAux fuel n acc = digitsAux fuel n [] ++ acc
  | 0, _, _ => rfl
  | fuel + 1, n, acc => by
    unfold digitsAux
    split
    · rfl
    · rw [digitsAux_acc fuel, digitsAux_acc fuel (n / 10) [_], List.append_assoc]
      rfl

theorem digitsAux_fuel : ∀ {fuel fuel' n : Nat}, n < fuel → n < fuel' → ∀ acc,
    digitsAux fuel n acc = digitsAux fuel' n acc
  | fuel + 1, fuel' + 1, n, h, h', acc => by
    unfold digitsAux
    split
    · rfl
    · exact digitsAux_fuel (by omega) (by omega) _

theorem digitsOf_of_lt {n : Nat} (h : n < 10) : digitsOf n = [⟨n, h⟩] := by
  unfold digitsOf digitsAux
  rw [dif_pos h]

theorem digitsOf_of_le {n : Nat} (h : 10 ≤ n) :
    digitsOf n = digitsOf (n / 10) ++ [⟨n % 10, Nat.mod_lt _ (by decide)⟩] := by
  have short : digitsAux n (n / 10) [] = digitsOf (n / 10) := digitsAux_fuel (by omega) (by omega) _
  rw [← short, ← digitsAux_acc]
  conv => lhs; unfold digitsOf digitsAux
  rw [dif_neg (by omega)]

theorem digitsOf_ne_nil (n : Nat) : digitsOf n ≠ [] := by
  by_cases h : n < 10
  · rw [digitsOf_of_lt h]
    exact List.cons_ne_nil _ _
  · rw [digitsOf_of_le (by omega)]
    simp

theorem head?_digitsOf (n : Nat) (pos : 0 < n) : (digitsOf n).head? ≠ some 0 := by
  by_cases h : n < 10
  · rw [digitsOf_of_lt h]
    intro hd
    have := congrArg (Option.map Fin.val) hd
    simp at this
    omega
  · have ih := head?_digitsOf (n / 10) (by omega)
    obtain ⟨d, ds, first⟩ := List.exists_cons_of_ne_nil (digitsOf_ne_nil (n / 10))
    rw [first] at ih
    rw [digitsOf_of_le (by omega), first]
    exact ih
termination_by n

theorem length_digitsOf_le {width : Nat} : ∀ {n : Nat}, 0 < width → n < 10 ^ width →
    (digitsOf n).length ≤ width := by
  induction width with
  | zero => intro n h; omega
  | succ width ih =>
    intro n _ h
    by_cases small : n < 10
    · rw [digitsOf_of_lt small, List.length_singleton]
      omega
    · rw [Nat.pow_succ] at h
      have wide : 0 < width := by
        rcases Nat.eq_zero_or_pos width with rfl | pos
        · omega
        · exact pos
      rw [digitsOf_of_le (by omega), List.length_append, List.length_singleton]
      exact Nat.succ_le_succ (ih wide (Nat.div_lt_of_lt_mul (by omega)))

/-! ## Putting it together again -/

theorem foldl_digits (ds : List Digit) (n : Nat) :
    ds.foldl (fun n d => 10 * n + d.val) n = n * 10 ^ ds.length + ofDigits ds := by
  unfold ofDigits
  induction ds generalizing n with
  | nil => simp
  | cons d ds ih =>
    rw [List.foldl_cons, List.foldl_cons, ih, ih (10 * 0 + d.val), List.length_cons, Nat.pow_succ,
      Nat.add_mul, Nat.add_mul, Nat.mul_zero, Nat.zero_mul, Nat.zero_add, Nat.add_assoc, Nat.mul_comm 10 n,
      Nat.mul_assoc, Nat.mul_comm 10]

theorem ofDigits_cons (d : Digit) (ds : List Digit) :
    ofDigits (d :: ds) = d.val * 10 ^ ds.length + ofDigits ds := by
  rw [ofDigits, List.foldl_cons, foldl_digits, Nat.mul_zero, Nat.zero_add]

theorem ofDigits_append (ds es : List Digit) :
    ofDigits (ds ++ es) = ofDigits ds * 10 ^ es.length + ofDigits es := by
  rw [ofDigits, List.foldl_append, foldl_digits]
  rfl

theorem ofDigits_lt : ∀ ds : List Digit, ofDigits ds < 10 ^ ds.length
  | [] => by decide
  | d :: ds => by
    have rest := ofDigits_lt ds
    have digit : (d.val + 1) * 10 ^ ds.length ≤ 10 * 10 ^ ds.length := Nat.mul_le_mul_right _ d.isLt
    rw [ofDigits_cons, List.length_cons, Nat.pow_succ, Nat.mul_comm _ 10]
    rw [Nat.add_mul, Nat.one_mul] at digit
    omega

theorem ofDigits_digitsOf (n : Nat) : ofDigits (digitsOf n) = n := by
  by_cases h : n < 10
  · rw [digitsOf_of_lt h]
    simp [ofDigits]
  · have ih := ofDigits_digitsOf (n / 10)
    rw [digitsOf_of_le (by omega), ofDigits_append, ih]
    simp only [List.length_singleton, Nat.pow_one, ofDigits, List.foldl_cons, List.foldl_nil]
    omega
termination_by n

theorem ofDigits_zeros (k : Nat) (ds : List Digit) : ofDigits (List.replicate k 0 ++ ds) = ofDigits ds := by
  induction k with
  | zero => rfl
  | succ k ih =>
    rw [List.replicate_succ, List.cons_append, ofDigits_cons, ih]
    simp

theorem ofDigits_padDigits (width n : Nat) : ofDigits (padDigits width n) = n := by
  rw [padDigits, ofDigits_zeros, ofDigits_digitsOf]

theorem length_padDigits {width n : Nat} (pos : 0 < width) (h : n < 10 ^ width) :
    (padDigits width n).length = width := by
  have := length_digitsOf_le pos h
  rw [padDigits, List.length_append, List.length_replicate]
  omega

/-! ## Characters -/

theorem toNat_toChar : ∀ d : Digit, d.toChar.toNat = 48 + d.val := by decide

theorem isDigit_toChar : ∀ d : Digit, d.toChar.isDigit = true := by decide

theorem digit?_toChar : ∀ d : Digit, digit? d.toChar = some d := by decide

theorem toChar_lt {d e : Digit} (h : d < e) : d.toChar < e.toChar := by
  have : d.toChar.toNat < e.toChar.toNat := by
    rw [toNat_toChar, toNat_toChar]
    exact Nat.add_lt_add_left h 48
  exact this

theorem digitsValue_toChar (ds : List Digit) : Text.digitsValue (ds.map Digit.toChar) = ofDigits ds := by
  unfold Text.digitsValue ofDigits
  rw [List.foldl_map]
  congr 1
  funext n d
  rw [toNat_toChar]
  exact congrArg (10 * n + ·) (Nat.add_sub_cancel_left ..)

theorem exists_digit {c : Char} (h : c.isDigit = true) : ∃ d : Digit, d.toChar = c := by
  obtain ⟨low, high⟩ : '0'.val ≤ c.val ∧ c.val ≤ '9'.val := by simpa [Char.isDigit] using h
  have low : 48 ≤ c.toNat := UInt32.le_iff_toNat_le.1 low
  have high : c.toNat ≤ 57 := UInt32.le_iff_toNat_le.1 high
  refine ⟨⟨c.toNat - 48, by omega⟩, Char.toNat_inj.1 ?_⟩
  rw [toNat_toChar]
  show 48 + (c.toNat - 48) = c.toNat
  omega

theorem exists_digits : ∀ {cs : List Char}, (∀ c ∈ cs, c.isDigit = true) → ∃ ds : List Digit, ds.map Digit.toChar = cs
  | [], _ => ⟨[], rfl⟩
  | c :: cs, h => by
    obtain ⟨first, rest⟩ := List.forall_mem_cons.1 h
    obtain ⟨d, rfl⟩ := exists_digit first
    obtain ⟨ds, rfl⟩ := exists_digits rest
    exact ⟨d :: ds, rfl⟩

/-- **A text is read as a number** exactly if it is some digits of it. -/
theorem number?_eq_some {cs : List Char} {n : Nat} :
    Text.number? cs = some n ↔ ∃ ds : List Digit, ds ≠ [] ∧ cs = ds.map Digit.toChar ∧ ofDigits ds = n := by
  unfold Text.number?
  constructor
  · intro h
    split at h
    · rename_i digits
      obtain ⟨ds, rfl⟩ := exists_digits (List.all_eq_true.1 digits.2)
      refine ⟨ds, fun none => digits.1 (by rw [none]; rfl), rfl, ?_⟩
      rw [← digitsValue_toChar]
      exact Option.some.inj h
    · cases h
  · rintro ⟨ds, ne, rfl, rfl⟩
    rw [if_pos ⟨by simpa using ne, by simp [isDigit_toChar]⟩, digitsValue_toChar]

theorem toList_digitText (ds : List Digit) : (digitText ds).toList = ds.map Digit.toChar :=
  String.toList_ofList

/-- **Digits of one width sort as the numbers do.** -/
theorem map_toChar_lt : ∀ {ds es : List Digit}, ds.length = es.length → ofDigits ds < ofDigits es →
    ds.map Digit.toChar < es.map Digit.toChar
  | [], [], _, h => absurd h (Nat.lt_irrefl _)
  | d :: ds, e :: es, len, h => by
    replace len : ds.length = es.length := Nat.succ.inj len
    rw [List.map_cons, List.map_cons, List.cons_lt_cons_iff]
    rw [ofDigits_cons, ofDigits_cons, len] at h
    have ltD := ofDigits_lt ds
    have ltE := ofDigits_lt es
    rw [len] at ltD
    rcases Nat.lt_trichotomy d.val e.val with less | same | more
    · exact .inl (toChar_lt less)
    · obtain rfl := Fin.ext same
      exact .inr ⟨rfl, map_toChar_lt len (by omega)⟩
    · have : (e.val + 1) * 10 ^ es.length ≤ d.val * 10 ^ es.length := Nat.mul_le_mul_right _ more
      rw [Nat.add_mul, Nat.one_mul] at this
      omega

end BenchSuite.Decimal
