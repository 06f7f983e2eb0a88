import BenchSuite.Json.Printer
import BenchSuite.Json.Reader
/-!
# Quoted texts in JSON

Whatever its characters, a text in quotes is read as it was written (`readQuoted_quote`).  A control
character without a letter of its own is written as a number, which is no half of a pair.
-/
namespace BenchSuite.Json

/-! ## Characters -/

theorem escape_control : ∀ n < 32, let cs := escape (Char.ofNat n)
    cs = ['\\', 'u', '0', '0', hexChar (n / 16), hexChar (n % 16)] ∨
    cs = ['\\', cs.getD 1 'u'] ∧ cs.getD 1 'u' ≠ 'u' ∧ escaped? (cs.getD 1 'u') = some (Char.ofNat n) := by
  decide

theorem escape_plain {c : Char} (high : 32 ≤ c.toNat) (quote : c ≠ '"') (backslash : c ≠ '\\') : escape c = [c] := by
  have other : ∀ d : Char, d.toNat < 32 → c ≠ d := by
    rintro d low rfl
    omega
  unfold escape
  rw [if_neg quote, if_neg backslash, if_neg (other _ (by decide)), if_neg (other _ (by decide)),
    if_neg (other _ (by decide)), if_neg (by omega), if_neg (by omega), if_neg (by omega)]

/-- **How a character is written**: by a letter, by its number if it is a control character, or as it is. -/
theorem escape_cases (c : Char) :
    (∃ l, l ≠ 'u' ∧ escape c = ['\\', l] ∧ escaped? l = some c) ∨
    (c.toNat < 32 ∧ escape c = ['\\', 'u', '0', '0', hexChar (c.toNat / 16), hexChar (c.toNat % 16)]) ∨
    (32 ≤ c.toNat ∧ c ≠ '"' ∧ c ≠ '\\' ∧ escape c = [c]) := by
  by_cases low : c.toNat < 32
  · have control := escape_control c.toNat low
    rw [Char.ofNat_toNat] at control
    rcases control with number | ⟨letter, other, stands⟩
    · exact .inr (.inl ⟨low, number⟩)
    · exact .inl ⟨_, other, letter, stands⟩
  · by_cases quote : c = '"'
    · subst quote
      exact .inl ⟨'"', by decide, rfl, rfl⟩
    · by_cases backslash : c = '\\'
      · subst backslash
        exact .inl ⟨'\\', by decide, rfl, rfl⟩
      · exact .inr (.inr ⟨Nat.not_lt.1 low, quote, backslash, escape_plain (Nat.not_lt.1 low) quote backslash⟩)

theorem hexUnit?_hexChar : ∀ n < 32, hexUnit? '0' '0' (hexChar (n / 16)) (hexChar (n % 16)) = some n := by
  decide

/-! ## Texts -/

/-- A glyph by which a character is written. -/
def Stands : Glyph → Char → Prop
  | .plain d, c => d = c
  | .unit u, c => u = c.toNat ∧ u < 0xD800

theorem readGlyphs_escape (c : Char) {cs rest : List Char} {gs : List Glyph} (h : readGlyphs cs = some (gs, rest)) :
    ∃ g, Stands g c ∧ readGlyphs (escape c ++ cs) = some (g :: gs, rest) := by
  rcases escape_cases c with ⟨l, other, written, stands⟩ | ⟨low, written⟩ | ⟨high, quote, backslash, written⟩
  · refine ⟨.plain c, rfl, ?_⟩
    rw [written]
    show readGlyphs ('\\' :: l :: cs) = _
    rw [readGlyphs, stands, h]
    · rfl
    · intro _ _ _ _ _ u
      exact absurd u other
  · refine ⟨.unit c.toNat, ⟨rfl, Nat.lt_trans low (by decide)⟩, ?_⟩
    rw [written]
    show readGlyphs ('\\' :: 'u' :: '0' :: '0' :: hexChar (c.toNat / 16) :: hexChar (c.toNat % 16) :: cs) = _
    rw [readGlyphs, hexUnit?_hexChar _ low, h]
    rfl
  · refine ⟨.plain c, rfl, ?_⟩
    rw [written]
    show readGlyphs (c :: cs) = _
    rw [readGlyphs, if_neg (by simp [backslash]; omega), h]
    · rfl
    · exact quote
    · intro _ _ _ _ _ same
      exact absurd same backslash
    · intro _ _ same
      exact absurd same backslash

theorem glyphText?_cons {g : Glyph} {c : Char} {gs : List Glyph} {cs : List Char} (h : Stands g c)
    (rest : glyphText? gs = some cs) : glyphText? (g :: gs) = some (c :: cs) := by
  cases g with
  | plain d =>
    obtain rfl : d = c := h
    rw [glyphText?, rest]
    rfl
  | unit u =>
    obtain ⟨rfl, low⟩ := h
    have alone : isHighHalf c.toNat = false ∧ isLowHalf c.toNat = false := by
      simp [isHighHalf, isLowHalf]
      omega
    rcases gs with - | ⟨d | v, gs⟩
    · rw [glyphText?, if_neg (by simp [alone]), rest, Char.ofNat_toNat]
      · rfl
      · simp
    · rw [glyphText?, if_neg (by simp [alone]), rest, Char.ofNat_toNat]
      · rfl
      · simp
    · rw [glyphText?, if_neg (by simp [alone]), if_neg (by simp [alone]), rest, Char.ofNat_toNat]
      rfl

theorem readGlyphs_escapes (rest : List Char) : ∀ cs : List Char,
    ∃ gs, readGlyphs (cs.flatMap escape ++ '"' :: rest) = some (gs, rest) ∧ glyphText? gs = some cs
  | [] => ⟨[], rfl, rfl⟩
  | c :: cs => by
    obtain ⟨gs, read, text⟩ := readGlyphs_escapes rest cs
    obtain ⟨g, stands, read⟩ := readGlyphs_escape c read
    refine ⟨g :: gs, ?_, glyphText?_cons stands text⟩
    rw [List.flatMap_cons, List.append_assoc]
    exact read

theorem quote_append (s : String) (rest : List Char) :
    quote (some s) ++ rest = '"' :: (s.toList.flatMap escape ++ '"' :: rest) := by
  simp [quote]

/-- **A text in quotes is read as it was written.** -/
theorem readQuoted_quote (s : String) (rest : List Char) :
    readQuoted (s.toList.flatMap escape ++ '"' :: rest) = some (some s, rest) := by
  obtain ⟨gs, read, text⟩ := readGlyphs_escapes rest s.toList
  rw [readQuoted, read]
  show some ((glyphText? gs).map String.ofList, rest) = _
  rw [text, Option.map_some, String.ofList_toList]

end BenchSuite.Json
