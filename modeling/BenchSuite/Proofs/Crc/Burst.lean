import Mathlib.Algebra.Group.Nat.Defs
import BenchSuite.Proofs.Crc.Register
/-!
# Bursts of errors

A burst is a change of a message inside a window of at most 32 bits, in the order in which the bits are
sent.  A polynomial whose highest bit is set puts the bit that falls out of the register back in at its
top, so a shift loses nothing (`shiftOut_inj`) and registers that differ stay different over a common
rest.  The bits of a window are one word, taken in by as many shifts (`foldl_feed_wordOf`); so two windows
that differ part the registers, and the checksum tells the messages apart (`burst_detected`).
-/
namespace BenchSuite.Crc

/-- The bits of a message in the order in which they are sent. -/
def sent (bytes : List UInt8) : List Bool := bytes.flatMap bitsOf

/-! ## A shift loses nothing -/

theorem testBit_halve_top (x : UInt32) : (halve x).toNat.testBit 31 = false := by
  rw [toNat_halve, Nat.testBit_shiftRight]
  exact Nat.testBit_lt_two_pow x.toNat_lt

theorem testBit_shiftOut_top {poly : UInt32} (top : poly.toNat.testBit 31 = true) (x : UInt32) :
    (shiftOut poly x).toNat.testBit 31 = x.toNat.testBit 0 := by
  have h := testBit_halve_top x
  unfold halve at h
  rw [shiftOut_eq, UInt32.toNat_xor, Nat.testBit_xor, h]
  cases x.toNat.testBit 0 <;> simp [top]

theorem eq_of_halve_eq {x y : UInt32} (low : x.toNat.testBit 0 = y.toNat.testBit 0)
    (rest : halve x = halve y) : x = y := by
  apply UInt32.toNat_inj.1
  apply Nat.eq_of_testBit_eq
  intro i
  cases i with
  | zero => exact low
  | succ i =>
    have h := congrArg (fun w : UInt32 => w.toNat.testBit i) rest
    simpa only [toNat_halve, Nat.testBit_shiftRight, Nat.add_comm 1 i] using h

theorem shiftOut_inj {poly : UInt32} (top : poly.toNat.testBit 31 = true) {x y : UInt32}
    (h : shiftOut poly x = shiftOut poly y) : x = y := by
  have low : x.toNat.testBit 0 = y.toNat.testBit 0 := by
    rw [← testBit_shiftOut_top top x, ← testBit_shiftOut_top top y, h]
  rw [shiftOut_eq, shiftOut_eq, low] at h
  exact eq_of_halve_eq low (UInt32.xor_left_inj _ |>.1 h)

theorem feed_inj {poly : UInt32} (top : poly.toNat.testBit 31 = true) {bit : Bool} {x y : UInt32}
    (h : feed poly x bit = feed poly y bit) : x = y :=
  UInt32.xor_left_inj _ |>.1 (shiftOut_inj top h)

theorem foldl_feed_inj {poly : UInt32} (top : poly.toNat.testBit 31 = true) :
    ∀ (bits : List Bool) {x y : UInt32}, bits.foldl (feed poly) x = bits.foldl (feed poly) y → x = y
  | [], _, _, h => h
  | _ :: bits, _, _, h => feed_inj top (foldl_feed_inj top bits h)

theorem iterate_shiftOut_inj {poly : UInt32} (top : poly.toNat.testBit 31 = true) :
    ∀ (n : Nat) {x y : UInt32}, iterate (shiftOut poly) n x = iterate (shiftOut poly) n y → x = y
  | 0, _, _, h => h
  | n + 1, _, _, h => shiftOut_inj top (iterate_shiftOut_inj top n h)

/-! ## A window as a word -/

/-- The number with the given bits, the lowest first. -/
def numberOf : List Bool → Nat
  | [] => 0
  | bit :: bits => 2 * numberOf bits + bit.toNat

theorem numberOf_lt : ∀ bits : List Bool, numberOf bits < 2 ^ bits.length
  | [] => by decide
  | bit :: bits => by
    have := numberOf_lt bits
    have := bit.toNat_lt
    rw [numberOf, List.length_cons, Nat.pow_succ]
    omega

theorem map_testBit_numberOf : ∀ bits : List Bool,
    (List.range bits.length).map (numberOf bits).testBit = bits
  | [] => rfl
  | bit :: bits => by
    have low : (numberOf (bit :: bits)).testBit 0 = bit := by
      have odd : (2 * numberOf bits + bit.toNat) % 2 = bit.toNat := by
        have := bit.toNat_lt
        omega
      rw [Nat.testBit_zero, numberOf, odd]
      cases bit <;> rfl
    have high : (numberOf (bit :: bits)).testBit ∘ Nat.succ = (numberOf bits).testBit := by
      funext i
      have half : (2 * numberOf bits + bit.toNat) / 2 = numberOf bits := by
        have := bit.toNat_lt
        omega
      rw [Function.comp_apply, Nat.succ_eq_add_one, Nat.testBit_succ, numberOf, half]
    rw [List.length_cons, List.range_succ_eq_map, List.map_cons, List.map_map, low, high,
      map_testBit_numberOf bits]

/-- The word with the given bits, of which there may be 32. -/
def wordOf (bits : List Bool) : UInt32 := UInt32.ofNat (numberOf bits)

theorem toNat_wordOf {bits : List Bool} (h : bits.length ≤ 32) : (wordOf bits).toNat = numberOf bits := by
  have fits : numberOf bits < 2 ^ 32 :=
    Nat.lt_of_lt_of_le (numberOf_lt bits) (Nat.pow_le_pow_right (by decide) h)
  exact UInt32.toNat_ofNat_of_lt' fits

theorem iterate_halve_eq_zero : ∀ (n : Nat) (x : UInt32), x.toNat < 2 ^ n → iterate halve n x = 0
  | 0, x, h => UInt32.toNat_inj.1 (Nat.lt_one_iff.1 h)
  | n + 1, x, h => iterate_halve_eq_zero n (halve x) (by
      rw [toNat_halve, Nat.shiftRight_eq_div_pow, Nat.pow_one]
      rw [Nat.pow_succ] at h
      omega)

/-- **The bits of a window are taken in by as many shifts** of the register with their word. -/
theorem foldl_feed_wordOf (poly crc : UInt32) {bits : List Bool} (h : bits.length ≤ 32) :
    bits.foldl (feed poly) crc = iterate (shiftOut poly) bits.length (wordOf bits ^^^ crc) := by
  have gone : iterate halve bits.length (wordOf bits) = 0 :=
    iterate_halve_eq_zero _ _ (by rw [toNat_wordOf h]; exact numberOf_lt bits)
  have fed := foldl_feed poly bits.length (wordOf bits) crc
  rw [toNat_wordOf h, map_testBit_numberOf, iterate_absorbBit, gone, UInt32.xor_zero] at fed
  exact fed

theorem foldl_feed_window_ne {poly : UInt32} (top : poly.toNat.testBit 31 = true) (crc : UInt32)
    {u v : List Bool} (short : u.length ≤ 32) (same : u.length = v.length) (ne : u ≠ v) :
    u.foldl (feed poly) crc ≠ v.foldl (feed poly) crc := by
  intro h
  rw [foldl_feed_wordOf poly crc short, foldl_feed_wordOf poly crc (same ▸ short), ← same] at h
  have words : wordOf u = wordOf v := UInt32.xor_left_inj _ |>.1 (iterate_shiftOut_inj top _ h)
  apply ne
  have numbers : numberOf u = numberOf v := by
    rw [← toNat_wordOf short, ← toNat_wordOf (same ▸ short), words]
  rw [← map_testBit_numberOf u, ← map_testBit_numberOf v, numbers, same]

/-! ## Whole messages -/

theorem foldl_absorb_table (poly crc : UInt32) (bytes : List UInt8) :
    bytes.foldl (absorb (table poly)) crc = (sent bytes).foldl (feed poly) crc := by
  have step : absorb (table poly) = fun crc b => (bitsOf b).foldl (feed poly) crc := by
    funext crc b
    rw [absorb_table, foldl_bitsOf]
  rw [sent, List.foldl_flatMap, step]

theorem length_sent (bytes : List UInt8) : (sent bytes).length = 8 * bytes.length := by
  induction bytes with
  | nil => rfl
  | cons b bytes ih =>
    rw [sent, List.flatMap_cons, List.length_append, List.length_cons, ← sent, ih]
    simp only [bitsOf, List.length_map, List.length_range]
    omega

theorem bitsOf_inj {a b : UInt8} (h : bitsOf a = bitsOf b) : a = b := by
  apply UInt8.toNat_inj.1
  apply Nat.eq_of_testBit_eq
  intro i
  by_cases hi : i < 8
  · exact List.map_inj_left.1 h i (List.mem_range.2 hi)
  · have out : ∀ c : UInt8, c.toNat.testBit i = false := fun c =>
      Nat.testBit_lt_two_pow (Nat.lt_of_lt_of_le c.toNat_lt (Nat.pow_le_pow_right (by decide) (by omega)))
    rw [out a, out b]

theorem sent_inj : ∀ {a b : List UInt8}, sent a = sent b → a = b
  | [], [], _ => rfl
  | [], b :: bs, h => by
    have := congrArg List.length h
    rw [length_sent, length_sent, List.length_cons, List.length_nil] at this
    omega
  | a :: as, [], h => by
    have := congrArg List.length h
    rw [length_sent, length_sent, List.length_cons, List.length_nil] at this
    omega
  | a :: as, b :: bs, h => by
    have width : (bitsOf a).length = (bitsOf b).length := by simp [bitsOf]
    obtain ⟨head, tail⟩ := List.append_inj h width
    rw [bitsOf_inj head, sent_inj tail]

/-- Two sequences agree outside a window: the `width` bits from `start` on. -/
def AgreeOutside (start width : Nat) (u v : List Bool) : Prop :=
  ∀ i, i < start ∨ start + width ≤ i → u[i]? = v[i]?

theorem agreeOutside_iff {start width : Nat} {u v : List Bool} : AgreeOutside start width u v ↔
    u.take start = v.take start ∧ (u.drop start).drop width = (v.drop start).drop width := by
  constructor
  · intro h
    constructor
    · apply List.ext_getElem?
      intro i
      rw [List.getElem?_take, List.getElem?_take]
      split
      · rename_i hi
        exact h i (.inl hi)
      · rfl
    · apply List.ext_getElem?
      intro i
      rw [List.drop_drop, List.drop_drop, List.getElem?_drop, List.getElem?_drop]
      exact h _ (.inr (by omega))
  · rintro ⟨before, after⟩ i (hi | hi)
    · rw [← List.getElem?_take_of_lt hi, before, List.getElem?_take_of_lt hi]
    · obtain ⟨j, rfl⟩ := Nat.exists_eq_add_of_le hi
      rw [← List.getElem?_drop, ← List.getElem?_drop, ← List.drop_drop, ← List.drop_drop, after]

/-- **Bursts of errors are detected.**  The usual polynomial has its highest bit set; and with every such
polynomial, two messages of one length that differ, but only inside a window of at most 32 bits, have
different checksums. -/
theorem burst_detected : polynomial.toNat.testBit 31 = true ∧
    ∀ poly : UInt32, poly.toNat.testBit 31 = true → ∀ (a b : List UInt8) (start width : Nat),
      a.length = b.length → a ≠ b → width ≤ 32 → AgreeOutside start width (sent a) (sent b) →
        checksum (table poly) a ≠ checksum (table poly) b := by
  refine ⟨by decide, fun poly top a b start width len ne narrow agree same => ?_⟩
  obtain ⟨before, after⟩ := agreeOutside_iff.1 agree
  have registers : (sent a).foldl (feed poly) 0xffffffff = (sent b).foldl (feed poly) 0xffffffff := by
    rw [← foldl_absorb_table, ← foldl_absorb_table]
    exact UInt32.not_inj.1 same
  -- each message is what comes before the window, the window, and what comes after it
  let middle (m : List UInt8) : List Bool := ((sent m).drop start).take width
  have cut : ∀ m, sent m = (sent m).take start ++ (middle m ++ ((sent m).drop start).drop width) :=
    fun m => by rw [List.take_append_drop, List.take_append_drop]
  have bits : (sent a).length = (sent b).length := by rw [length_sent, length_sent, len]
  have lengths : (middle a).length = (middle b).length := by
    simp only [middle, List.length_take, List.length_drop, bits]
  have short : (middle a).length ≤ 32 := Nat.le_trans (List.length_take_le ..) narrow
  have windows : middle a ≠ middle b := by
    intro h
    apply ne
    apply sent_inj
    rw [cut a, cut b, before, after, h]
  rw [cut a, cut b, before, after, List.foldl_append, List.foldl_append, List.foldl_append,
    List.foldl_append] at registers
  exact foldl_feed_window_ne top _ short lengths windows (foldl_feed_inj top _ registers)

/-- Two messages of five bytes, changed from the last bit of the first byte on over 32 bits, which lie
in all five bytes. -/
theorem burst_detected_five_bytes :
    polynomial.toNat.testBit 31 = true ∧
      AgreeOutside 7 32 (sent [0x31, 0x32, 0x33, 0x34, 0x35]) (sent [0xb1, 0xcd, 0x33, 0x34, 0x75]) ∧
      checksum (table polynomial) [0x31, 0x32, 0x33, 0x34, 0x35]
        ≠ checksum (table polynomial) [0xb1, 0xcd, 0x33, 0x34, 0x75] := by
  have agree : AgreeOutside 7 32 (sent [0x31, 0x32, 0x33, 0x34, 0x35])
      (sent [0xb1, 0xcd, 0x33, 0x34, 0x75]) := agreeOutside_iff.2 (by decide)
  exact ⟨by decide, agree, burst_detected.2 polynomial (by decide) _ _ 7 32 rfl (by decide) (by decide) agree⟩

end BenchSuite.Crc
