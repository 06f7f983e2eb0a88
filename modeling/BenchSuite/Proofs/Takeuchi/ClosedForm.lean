/-!
# The recursion of Takeuchi on numbers

`answerLength` is the closed form of the recursion and `callDepth` how deep its calls go.  Three regions
of triples behave differently, by where the third number lies beside the other two (`answerLength_high`,
`answerLength_low`, `answerLength_between`).  In each the answers of the inner calls are known, and
nearly always the call on them ends at once (`follows_inner`).  Every call is less deep than the one that
makes it (`callDepth_first`, `callDepth_second`, `callDepth_third`), and none deeper than twice the
largest number (`callDepth_le`).
-/
namespace BenchSuite.Takeuchi

/-- **The closed form of the recursion.**  Where the third number is far above or far below the others,
the answer depends on whether their distance is even. -/
def answerLength (a b c : Nat) : Nat :=
  if a ≤ b then c
  else if a + 2 ≤ c then (if (c - a) % 2 = 0 then a else b + 1)
  else if c + 2 ≤ b then (if (a - b) % 2 = 1 then b else c + 1)
  else if a = b + 1 ∧ c = a + 1 then b + 1
  else b

/-- **How deep the calls go**, the first one counted. -/
def callDepth (a b c : Nat) : Nat :=
  if a ≤ b then 1
  else if c + 2 ≤ b then a + b - 2 * c
  else if c ≤ b + 1 then a - b + 1
  else a + c - 2 * b

/-! ## The closed form by region -/

theorem answerLength_of_le {a b c : Nat} (h : a ≤ b) : answerLength a b c = c := if_pos h

theorem answerLength_high {a b c : Nat} (h : b < a) (hc : a + 2 ≤ c) :
    answerLength a b c = if (c - a) % 2 = 0 then a else b + 1 := by
  rw [answerLength, if_neg (by omega), if_pos hc]

theorem answerLength_low {a b c : Nat} (h : b < a) (hc : c + 2 ≤ b) :
    answerLength a b c = if (a - b) % 2 = 1 then b else c + 1 := by
  rw [answerLength, if_neg (by omega), if_neg (by omega), if_pos hc]

theorem answerLength_between {a b c : Nat} (h : b < a) (hb : b ≤ c + 1) (hc : c ≤ a + 1) :
    answerLength a b c = if a = b + 1 ∧ c = a + 1 then b + 1 else b := by
  rw [answerLength, if_neg (by omega), if_neg (by omega), if_neg (by omega)]

/-! ## The inner calls are less deep -/

theorem callDepth_of_le {a b c : Nat} (h : a ≤ b) : callDepth a b c = 1 := if_pos h

theorem callDepth_cases {a b c : Nat} (h : b < a) :
    (c + 2 ≤ b ∧ callDepth a b c = a + b - 2 * c) ∨
      (b ≤ c + 1 ∧ c ≤ b + 1 ∧ callDepth a b c = a - b + 1) ∨
      (b + 2 ≤ c ∧ callDepth a b c = a + c - 2 * b) := by
  by_cases low : c + 2 ≤ b
  · exact .inl ⟨low, by rw [callDepth, if_neg (by omega), if_pos low]⟩
  · by_cases near : c ≤ b + 1
    · exact .inr (.inl ⟨by omega, near, by rw [callDepth, if_neg (by omega), if_neg low, if_pos near]⟩)
    · exact .inr (.inr ⟨by omega, by rw [callDepth, if_neg (by omega), if_neg low, if_neg near]⟩)

theorem one_lt_callDepth {a b c : Nat} (h : b < a) : 1 < callDepth a b c := by
  have := callDepth_cases (c := c) h
  omega

/-- A call is less deep when it ends at once, or else when the depths say so. -/
theorem callDepth_lt {a b c x y z : Nat} (h : b < a) (deeper : y < x → callDepth x y z < callDepth a b c) :
    callDepth x y z < callDepth a b c := by
  by_cases hxy : x ≤ y
  · rw [callDepth_of_le hxy]
    exact one_lt_callDepth h
  · exact deeper (Nat.lt_of_not_le hxy)

theorem callDepth_first {a b c : Nat} (h : b < a) : callDepth (a - 1) b c < callDepth a b c := by
  refine callDepth_lt h fun inside => ?_
  have inner := callDepth_cases (c := c) inside
  have outer := callDepth_cases (c := c) h
  omega

theorem callDepth_second {a b c : Nat} (h : b < a) : callDepth (b - 1) c a < callDepth a b c := by
  refine callDepth_lt h fun inside => ?_
  have inner := callDepth_cases (c := a) inside
  have outer := callDepth_cases (c := c) h
  omega

theorem callDepth_third {a b c : Nat} (h : b < a) : callDepth (c - 1) a b < callDepth a b c := by
  refine callDepth_lt h fun inside => ?_
  have inner := callDepth_cases (c := b) inside
  have outer := callDepth_cases (c := c) h
  omega

theorem callDepth_le {a b c n : Nat} (ha : a ≤ n) (hc : c ≤ n) : callDepth a b c ≤ 2 * n + 1 := by
  by_cases hab : a ≤ b
  · rw [callDepth_of_le hab]
    omega
  · have := callDepth_cases (c := c) (Nat.lt_of_not_le hab)
    omega

/-! ## The call on the inner answers

`Follows a b c x y z` says that three numbers may stand for the answers of the inner calls: the call on
them comes to the answer for `a`, `b` and `c`, and is less deep. -/

def Follows (a b c x y z : Nat) : Prop :=
  answerLength x y z = answerLength a b c ∧ callDepth x y z < callDepth a b c

theorem follows_of_le {a b c x y z : Nat} (h : b < a) (hxy : x ≤ y) (hz : z = answerLength a b c) :
    Follows a b c x y z := by
  refine ⟨(answerLength_of_le hxy).trans hz, ?_⟩
  rw [callDepth_of_le hxy]
  exact one_lt_callDepth h

/-- Far above: the first inner answer alternates, and the call on the answers ends at once unless the
first two numbers are neighbours. -/
theorem follows_high {a b c : Nat} (h : b < a) (hc : a + 2 ≤ c) :
    Follows a b c (answerLength (a - 1) b c) (answerLength (b - 1) c a) (answerLength (c - 1) a b) := by
  have hy : answerLength (b - 1) c a = a := answerLength_of_le (by omega)
  have answer := answerLength_high h hc
  rw [hy]
  by_cases hab : a = b + 1
  · have hx : answerLength (a - 1) b c = c := answerLength_of_le (by omega)
    have hz : answerLength (c - 1) a b = a := by
      rw [answerLength_between (by omega) (by omega) (by omega)]
      split <;> omega
    rw [hx, hz]
    refine ⟨?_, ?_⟩
    · rw [answerLength_between (by omega) (by omega) (by omega), answer]
      split <;> split <;> omega
    · have inner := callDepth_cases (a := c) (b := a) (c := a) (by omega)
      have outer := callDepth_cases (c := c) h
      omega
  · have hx : answerLength (a - 1) b c = if (c - (a - 1)) % 2 = 0 then a - 1 else b + 1 :=
      answerLength_high (by omega) (by omega)
    have hz : answerLength (c - 1) a b = if (c - 1 - a) % 2 = 1 then a else b + 1 :=
      answerLength_low (by omega) (by omega)
    refine follows_of_le h ?_ ?_
    · rw [hx]
      split <;> omega
    · rw [hz, answer]
      split <;> split <;> omega

/-- Far below: the third inner answer is the second number, and the call on the answers ends at once
unless the distance is even. -/
theorem follows_low {a b c : Nat} (h : b < a) (hc : c + 2 ≤ b) :
    Follows a b c (answerLength (a - 1) b c) (answerLength (b - 1) c a) (answerLength (c - 1) a b) := by
  have hz : answerLength (c - 1) a b = b := answerLength_of_le (by omega)
  have hy : answerLength (b - 1) c a = if (a - (b - 1)) % 2 = 0 then b - 1 else c + 1 :=
    answerLength_high (by omega) (by omega)
  have answer := answerLength_low h hc
  rw [hz]
  by_cases odd : (a - b) % 2 = 1
  · have hx : answerLength (a - 1) b c ≤ c + 1 := by
      by_cases hab : a = b + 1
      · rw [answerLength_of_le (by omega)]
        omega
      · have low : answerLength (a - 1) b c = c + 1 := by
          rw [answerLength_low (by omega) hc, if_neg (by omega)]
        exact Nat.le_of_eq low
    rw [if_pos (by omega)] at hy
    refine follows_of_le h (by omega) ?_
    rw [answer, if_pos odd]
  · have hx : answerLength (a - 1) b c = b := by
      rw [answerLength_low (by omega) hc, if_pos (by omega)]
    rw [if_neg (by omega)] at hy
    rw [hx, hy]
    have hbc : ¬ b ≤ c + 1 := by omega
    refine ⟨?_, ?_⟩
    · rw [answerLength_between (by omega) (by omega) (by omega), answer, if_neg (by omega), if_neg odd]
    · have inner := callDepth_cases (c := b) (Nat.lt_of_not_le hbc)
      have outer := callDepth_cases (c := c) h
      omega

/-- In between: the last two inner answers are the other numbers, and the call on the answers ends at
once unless all three numbers are neighbours. -/
theorem follows_between {a b c : Nat} (h : b < a) (hb : b ≤ c + 1) (hc : c ≤ a + 1) :
    Follows a b c (answerLength (a - 1) b c) (answerLength (b - 1) c a) (answerLength (c - 1) a b) := by
  have hy : answerLength (b - 1) c a = a := answerLength_of_le (by omega)
  have hz : answerLength (c - 1) a b = b := answerLength_of_le (by omega)
  have answer := answerLength_between h hb hc
  rw [hy, hz]
  by_cases edge : a = b + 1 ∧ c = a + 1
  · have hx : answerLength (a - 1) b c = c := answerLength_of_le (by omega)
    rw [hx]
    refine ⟨?_, ?_⟩
    · rw [answerLength_between (by omega) (by omega) (by omega), if_neg (by omega), answer, if_pos edge]
      omega
    · have inner := callDepth_cases (a := c) (b := a) (c := b) (by omega)
      have outer := callDepth_cases (c := c) h
      omega
  · refine follows_of_le h ?_ ?_
    · by_cases hab : a = b + 1
      · rw [answerLength_of_le (by omega)]
        omega
      · by_cases hca : c = a + 1
        · rw [answerLength_high (by omega) (by omega)]
          split <;> omega
        · rw [answerLength_between (by omega) hb (by omega)]
          split <;> omega
    · rw [answer, if_neg edge]

/-- **The closed form solves the recursion**, and the outer call is less deep. -/
theorem follows_inner {a b c : Nat} (h : b < a) :
    Follows a b c (answerLength (a - 1) b c) (answerLength (b - 1) c a) (answerLength (c - 1) a b) := by
  by_cases high : a + 2 ≤ c
  · exact follows_high h high
  · by_cases low : c + 2 ≤ b
    · exact follows_low h low
    · exact follows_between h (by omega) (by omega)

end BenchSuite.Takeuchi
