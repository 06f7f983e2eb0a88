import Mathlib.Data.List.DropRight
import BenchSuite.Proofs.Json.Numerals
import BenchSuite.Proofs.Json.Quoting
/-!
# What is written as JSON is read

A text reads as a value if the reader takes just this text off any longer one that does not go on a number
(`Reads`).  Lists and objects read if their items do, with blanks between them, so both written forms of a
value read as it (`ofText?_compactText`, `ofText?_prettyText`).  Left out are only values that no writer
makes: a numeral that is not strict, and a text that is none.
-/
namespace BenchSuite.Json

open Decimal

/-! ## Blanks -/

def Blank (w : List Char) : Prop := w.all isBlank = true

theorem skipBlanks_append {w : List Char} (h : Blank w) (cs : List Char) : skipBlanks (w ++ cs) = skipBlanks cs :=
  List.dropWhile_append_of_pos (List.all_eq_true.1 h)

theorem skipBlanks_skipBlanks (cs : List Char) : skipBlanks (skipBlanks cs) = skipBlanks cs :=
  List.dropWhile_idempotent isBlank cs

theorem readValue_skipBlanks (fuel : Nat) (cs : List Char) : readValue fuel (skipBlanks cs) = readValue fuel cs := by
  cases fuel with
  | zero => rfl
  | succ fuel => rw [readValue, readValue, skipBlanks_skipBlanks]

theorem readItems_skipBlanks (fuel : Nat) (cs : List Char) : readItems fuel (skipBlanks cs) = readItems fuel cs := by
  cases fuel with
  | zero => rfl
  | succ fuel => rw [readItems, readItems, readValue_skipBlanks]

theorem readMembers_skipBlanks (fuel : Nat) (cs : List Char) :
    readMembers fuel (skipBlanks cs) = readMembers fuel cs := by
  cases fuel with
  | zero => rfl
  | succ fuel => rw [readMembers, readMembers, skipBlanks_skipBlanks]

theorem endsNumber_cons {c : Char} (h : digit? c = none ∧ c ≠ '.' ∧ c ≠ 'e' ∧ c ≠ 'E') (rest : List Char) :
    EndsNumber (c :: rest) := by
  intro d hd
  obtain rfl := Option.some.inj hd
  exact h

theorem not_in_number_of_isBlank {c : Char} (h : isBlank c = true) :
    digit? c = none ∧ c ≠ '.' ∧ c ≠ 'e' ∧ c ≠ 'E' := by
  simp only [isBlank, Bool.or_eq_true, beq_iff_eq] at h
  rcases h with ((rfl | rfl) | rfl) | rfl <;> decide

theorem endsNumber_append {w rest : List Char} (h : Blank w) (ends : EndsNumber rest) : EndsNumber (w ++ rest) := by
  cases w with
  | nil => exact ends
  | cons c w => exact endsNumber_cons (not_in_number_of_isBlank (List.all_eq_true.1 h c List.mem_cons_self)) _

/-! ## Values -/

/-- A text that is read as a value. -/
def Reads (cs : List Char) (j : Json) : Prop :=
  ∀ fuel rest, 2 * cs.length ≤ fuel → EndsNumber rest → readValue fuel (cs ++ rest) = some (j, rest)

/-- A text before the end of a list that is read as its items. -/
def ReadsItems (cs : List Char) (items : List Json) : Prop :=
  ∀ fuel w rest, 2 * cs.length + 1 ≤ fuel → Blank w → readItems fuel (cs ++ (w ++ ']' :: rest)) = some (items, rest)

/-- A text before the end of an object that is read as its members. -/
def ReadsMembers (cs : List Char) (members : List (Option String × Json)) : Prop :=
  ∀ fuel w rest, 2 * cs.length + 1 ≤ fuel → Blank w →
    readMembers fuel (cs ++ (w ++ '\x7d' :: rest)) = some (members, rest)

theorem Reads.of_cons {c : Char} {cs : List Char} {j : Json}
    (h : ∀ fuel rest, 2 * cs.length + 1 ≤ fuel → EndsNumber rest →
      readValue (fuel + 1) (c :: (cs ++ rest)) = some (j, rest)) :
    Reads (c :: cs) j := by
  intro fuel rest enough ends
  rw [List.length_cons] at enough
  obtain ⟨fuel, rfl⟩ : ∃ f, fuel = f + 1 := ⟨fuel - 1, by omega⟩
  exact h fuel rest (by omega) ends

theorem Reads.blank {w cs : List Char} {j : Json} (h : Blank w) (reads : Reads cs j) : Reads (w ++ cs) j := by
  intro fuel rest enough ends
  rw [List.length_append] at enough
  rw [List.append_assoc, ← readValue_skipBlanks, skipBlanks_append h, readValue_skipBlanks]
  exact reads fuel rest (by omega) ends

theorem reads_null : Reads ['n', 'u', 'l', 'l'] .null := .of_cons fun _ _ _ _ => rfl

theorem reads_true : Reads ['t', 'r', 'u', 'e'] (.bool true) := .of_cons fun _ _ _ _ => rfl

theorem reads_false : Reads ['f', 'a', 'l', 's', 'e'] (.bool false) := .of_cons fun _ _ _ _ => rfl

theorem reads_quote (s : String) : Reads (quote (some s)) (.text s) := by
  have text := readQuoted_quote s
  show Reads ('"' :: (s.toList.flatMap escape ++ ['"'])) _
  refine .of_cons fun fuel rest _ _ => ?_
  rw [List.append_assoc]
  show (readQuoted (s.toList.flatMap escape ++ '"' :: rest)).bind _ = _
  rw [text]
  rfl

theorem readValue_digit (fuel : Nat) (cs : List Char) (d : Digit) : readValue (fuel + 1) (d.toChar :: cs) =
    (readNumeral false (d.toChar :: cs)).bind fun (n, rest) => some (.number n, rest) := by
  match d with
  | 0 | 1 | 2 | 3 | 4 | 5 | 6 | 7 | 8 | 9 => rfl

theorem reads_number {n : Numeral} (strict : Strict n) : Reads (numeralChars n) (.number n) := by
  have read {rest} (ends : EndsNumber rest) := readNumeral_chars strict ends
  rw [numeralChars_eq]
  cases sign : n.negative with
  | true =>
    rw [sign] at read
    refine .of_cons fun fuel rest _ ends => ?_
    show (readNumeral true (sizeChars n ++ rest)).bind _ = _
    rw [read ends]
    rfl
  | false =>
    rw [sign] at read
    obtain ⟨d, ds, first, -⟩ := strict.whole
    have front : sizeChars n = d.toChar :: (digitChars ds ++ (fractionChars n.fraction ++ powerChars n.power)) := by
      rw [sizeChars, first]
      rfl
    rw [if_neg (by decide)]
    rw [front] at read ⊢
    refine .of_cons fun fuel rest _ ends => ?_
    have read := read ends
    rw [List.cons_append] at read
    rw [readValue_digit, read]
    rfl

/-! ## Lists and objects -/

theorem readItems_close (fuel : Nat) (cs : List Char) : readItems fuel (']' :: cs) = none := by
  rcases fuel with - | - | fuel <;> rfl

theorem readMembers_close (fuel : Nat) (cs : List Char) : readMembers fuel ('\x7d' :: cs) = none := by
  cases fuel <;> rfl

theorem readValue_bracket (fuel : Nat) (cs : List Char) : readValue (fuel + 1) ('[' :: cs) =
    match skipBlanks cs with
    | ']' :: rest => some (.array [], rest)
    | rest => (readItems fuel rest).bind fun (items, rest) => some (.array items, rest) := rfl

theorem readValue_brace (fuel : Nat) (cs : List Char) : readValue (fuel + 1) ('\x7b' :: cs) =
    match skipBlanks cs with
    | '\x7d' :: rest => some (.object [], rest)
    | rest => (readMembers fuel rest).bind fun (members, rest) => some (.object members, rest) := rfl

theorem readValue_array {fuel : Nat} {cs rest : List Char} {items : List Json}
    (h : readItems fuel cs = some (items, rest)) : readValue (fuel + 1) ('[' :: cs) = some (.array items, rest) := by
  rw [← readItems_skipBlanks] at h
  rw [readValue_bracket]
  split
  · rename_i close
    rw [close, readItems_close] at h
    cases h
  · rw [h]
    rfl

theorem readValue_object {fuel : Nat} {cs rest : List Char} {members : List (Option String × Json)}
    (h : readMembers fuel cs = some (members, rest)) :
    readValue (fuel + 1) ('\x7b' :: cs) = some (.object members, rest) := by
  rw [← readMembers_skipBlanks] at h
  rw [readValue_brace]
  split
  · rename_i close
    rw [close, readMembers_close] at h
    cases h
  · rw [h]
    rfl

theorem reads_array {cs w : List Char} {items : List Json} (h : ReadsItems cs items) (blank : Blank w) :
    Reads ('[' :: (cs ++ (w ++ [']']))) (.array items) := by
  refine .of_cons fun fuel rest enough _ => readValue_array ?_
  rw [List.length_append, List.length_append] at enough
  rw [List.append_assoc, List.append_assoc]
  exact h fuel w rest (by omega) blank

theorem reads_object {cs w : List Char} {members : List (Option String × Json)} (h : ReadsMembers cs members)
    (blank : Blank w) : Reads ('\x7b' :: (cs ++ (w ++ ['\x7d']))) (.object members) := by
  refine .of_cons fun fuel rest enough _ => readValue_object ?_
  rw [List.length_append, List.length_append] at enough
  rw [List.append_assoc, List.append_assoc]
  exact h fuel w rest (by omega) blank

theorem readItems_last {fuel : Nat} {cs w rest : List Char} {v : Json} (blank : Blank w)
    (value : readValue fuel cs = some (v, w ++ ']' :: rest)) : readItems (fuel + 1) cs = some ([v], rest) := by
  rw [readItems, value]
  dsimp only [bind, Option.bind]
  rw [skipBlanks_append blank]
  rfl

theorem readItems_more {fuel : Nat} {cs ds rest : List Char} {v : Json} {vs : List Json}
    (value : readValue fuel cs = some (v, ',' :: ds)) (more : readItems fuel ds = some (vs, rest)) :
    readItems (fuel + 1) cs = some (v :: vs, rest) := by
  rw [readItems, value]
  show (readItems fuel ds).bind _ = _
  rw [more]
  rfl

/-- What the reader of members does after a key. -/
theorem readMembers_key (fuel : Nat) {w : List Char} (blank : Blank w) (k : String) (cs : List Char) :
    readMembers (fuel + 1) (w ++ (quote (some k) ++ ':' :: cs)) = (readValue fuel cs).bind fun (v, rest) =>
      match skipBlanks rest with
      | ',' :: rest => (readMembers fuel rest).bind fun (vs, rest) => some ((some k, v) :: vs, rest)
      | '\x7d' :: rest => some ([(some k, v)], rest)
      | _ => none := by
  have key := readQuoted_quote k (':' :: cs)
  rw [← readMembers_skipBlanks, skipBlanks_append blank, readMembers_skipBlanks, quote_append]
  show (readQuoted (k.toList.flatMap escape ++ '"' :: ':' :: cs)).bind _ = _
  rw [key]
  rfl

theorem readMembers_last {fuel : Nat} {u cs w rest : List Char} {k : String} {v : Json} (lead : Blank u)
    (blank : Blank w) (value : readValue fuel cs = some (v, w ++ '\x7d' :: rest)) :
    readMembers (fuel + 1) (u ++ (quote (some k) ++ ':' :: cs)) = some ([(some k, v)], rest) := by
  rw [readMembers_key fuel lead, value, Option.bind_some]
  dsimp only
  rw [skipBlanks_append blank]
  rfl

theorem readMembers_more {fuel : Nat} {u cs ds rest : List Char} {k : String} {v : Json}
    {vs : List (Option String × Json)} (lead : Blank u) (value : readValue fuel cs = some (v, ',' :: ds))
    (more : readMembers fuel ds = some (vs, rest)) :
    readMembers (fuel + 1) (u ++ (quote (some k) ++ ':' :: cs)) = some ((some k, v) :: vs, rest) := by
  rw [readMembers_key fuel lead, value]
  show (readMembers fuel ds).bind _ = _
  rw [more]
  rfl

/-- Texts with a comma between each two. -/
def joined {α : Type} (f : α → List Char) : List α → List Char
  | [] => []
  | [a] => f a
  | a :: b :: rest => f a ++ ',' :: joined f (b :: rest)

/-- **Items with commas between them** are read one after the other. -/
theorem readsItems_joined {f : Json → List Char} : ∀ {items : List Json}, items ≠ [] →
    (∀ v ∈ items, Reads (f v) v) → ReadsItems (joined f items) items
  | v :: items, _, reads => by
    intro fuel w rest enough blank
    obtain ⟨fuel, rfl⟩ : ∃ n, fuel = n + 1 := ⟨fuel - 1, by omega⟩
    -- an item uses up one step, and the comma behind it pays for the next one
    have value := reads v List.mem_cons_self fuel
    cases items with
    | nil =>
      rw [joined] at enough ⊢
      exact readItems_last blank (value _ (by omega) (endsNumber_append blank (endsNumber_cons (by decide) _)))
    | cons v' items =>
      have more := readsItems_joined (List.cons_ne_nil v' items) fun v hv => reads v (List.mem_cons_of_mem _ hv)
      rw [joined, List.length_append, List.length_cons] at enough
      rw [joined, List.append_assoc, List.cons_append]
      exact readItems_more (value _ (by omega) (endsNumber_cons (by decide) _)) (more fuel w rest (by omega) blank)

/-- **Members with commas between them** are read one after the other. -/
theorem readsMembers_joined {u : List Char} (lead : Blank u) {f : Json → List Char} :
    ∀ {members : List (Option String × Json)}, members ≠ [] →
    (∀ m ∈ members, ∃ k, m.1 = some k) → (∀ m ∈ members, Reads (f m.2) m.2) →
    ReadsMembers (joined (fun m => u ++ (quote m.1 ++ ':' :: f m.2)) members) members
  | (key, v) :: members, _, texts, reads => by
    intro fuel w rest enough blank
    obtain ⟨k, rfl⟩ : ∃ k, key = some k := texts _ List.mem_cons_self
    obtain ⟨fuel, rfl⟩ : ∃ n, fuel = n + 1 := ⟨fuel - 1, by omega⟩
    have value := reads _ List.mem_cons_self fuel
    cases members with
    | nil =>
      simp only [joined, List.length_append, List.length_cons] at enough
      simp only [joined, List.append_assoc, List.cons_append]
      exact readMembers_last lead blank
        (value _ (by dsimp only; omega) (endsNumber_append blank (endsNumber_cons (by decide) _)))
    | cons m members =>
      have more := readsMembers_joined lead (List.cons_ne_nil m members)
        (fun m hm => texts m (List.mem_cons_of_mem _ hm)) fun m hm => reads m (List.mem_cons_of_mem _ hm)
      rw [joined] at enough ⊢
      simp only [List.length_append, List.length_cons] at enough
      simp only [List.append_assoc, List.cons_append]
      exact readMembers_more lead (value _ (by dsimp only; omega) (endsNumber_cons (by decide) _))
        (more fuel w rest (by omega) blank)

/-! ## The two written forms -/

/-- A value that a writer makes: its numerals are strict, and what should be a text is one. -/
inductive Proper : Json → Prop
  | null : Proper .null
  | bool (b : Bool) : Proper (.bool b)
  | number {n : Numeral} (strict : Strict n) : Proper (.number n)
  | text (s : String) : Proper (.text s)
  | array {items : List Json} (values : ∀ v ∈ items, Proper v) : Proper (.array items)
  | object {members : List (Option String × Json)} (keys : ∀ m ∈ members, ∃ k, m.1 = some k)
      (values : ∀ m ∈ members, Proper m.2) : Proper (.object members)

theorem compactItems_eq : ∀ items : List Json, compactItems items = joined compact items
  | [] | [_] => rfl
  | v :: v' :: items => congrArg (compact v ++ ',' :: ·) (compactItems_eq (v' :: items))

theorem compactMembers_eq : ∀ members : List (Option String × Json),
    compactMembers members = joined (fun m => [] ++ (quote m.1 ++ ':' :: compact m.2)) members
  | [] | [_] => rfl
  | (k, v) :: m :: members => by
    have ih := compactMembers_eq (m :: members)
    rw [joined, ← ih]
    simp [compactMembers]

theorem prettyItems_eq (level : Nat) : ∀ items : List Json,
    prettyItems level items = joined (fun v => newLine level ++ pretty level v) items
  | [] | [_] => rfl
  | v :: v' :: items => by
    have ih := prettyItems_eq level (v' :: items)
    rw [joined, ← ih]
    rfl

theorem prettyMembers_eq (level : Nat) : ∀ members : List (Option String × Json), prettyMembers level members =
    joined (fun m => newLine level ++ (quote m.1 ++ ':' :: ([' '] ++ pretty level m.2))) members
  | [] => rfl
  | [(k, v)] => by
    rw [joined, ← List.append_assoc]
    rfl
  | (k, v) :: m :: members => by
    have ih := prettyMembers_eq level (m :: members)
    rw [joined, ← ih]
    simp [prettyMembers]

theorem blank_newLine (level : Nat) : Blank (newLine level) := by
  refine List.all_eq_true.2 fun c hc => ?_
  rcases List.mem_cons.1 hc with rfl | space
  · rfl
  · rw [List.eq_of_mem_replicate space]
    rfl

theorem reads_compact {j : Json} (h : Proper j) : Reads j.compact j := by
  induction h with
  | null => exact reads_null
  | bool b => cases b <;> first | exact reads_true | exact reads_false
  | number strict => exact reads_number strict
  | text s => exact reads_quote s
  | @array items _ ih =>
    rw [compact, compactItems_eq]
    cases items with
    | nil => exact .of_cons fun _ _ _ _ => rfl
    | cons v items => exact reads_array (readsItems_joined (List.cons_ne_nil _ _) ih) (w := []) rfl
  | @object members keys _ ih =>
    rw [compact, compactMembers_eq]
    cases members with
    | nil => exact .of_cons fun _ _ _ _ => rfl
    | cons m members =>
      exact reads_object (readsMembers_joined (u := []) rfl (List.cons_ne_nil _ _) keys ih) (w := []) rfl

theorem reads_pretty {j : Json} (h : Proper j) : ∀ level, Reads (j.pretty level) j := by
  induction h with
  | null => exact fun _ => reads_null
  | bool b => exact fun _ => by cases b <;> first | exact reads_true | exact reads_false
  | number strict => exact fun _ => reads_number strict
  | text s => exact fun _ => reads_quote s
  | @array items _ ih =>
    intro level
    cases items with
    | nil => exact .of_cons fun _ _ _ _ => rfl
    | cons v items =>
      have items := readsItems_joined (List.cons_ne_nil _ _) fun v hv =>
        (ih v hv (level + 1)).blank (blank_newLine (level + 1))
      rw [pretty, prettyItems_eq, List.append_assoc]
      · exact reads_array items (blank_newLine level)
      · exact List.cons_ne_nil _ _
  | @object members keys _ ih =>
    intro level
    cases members with
    | nil => exact .of_cons fun _ _ _ _ => rfl
    | cons m members =>
      have values : ∀ n ∈ m :: members, Reads ([' '] ++ pretty (level + 1) n.2) n.2 := fun n hn =>
        (ih n hn (level + 1)).blank rfl
      have members := readsMembers_joined (f := fun v => [' '] ++ pretty (level + 1) v) (blank_newLine (level + 1))
        (List.cons_ne_nil _ _) keys values
      rw [pretty, prettyMembers_eq, List.append_assoc]
      · exact reads_object members (blank_newLine level)
      · exact List.cons_ne_nil _ _

theorem ofChars?_of_reads {cs : List Char} {j : Json} (h : Reads cs j) : ofChars? cs = some j := by
  have read := h (2 * cs.length + 2) [] (by omega) fun c hc => nomatch hc
  rw [List.append_nil] at read
  rw [ofChars?, read]
  rfl

/-- **A value without blanks is read as it was written.** -/
theorem ofText?_compactText {j : Json} (h : Proper j) : ofText? j.compactText = some j := by
  rw [ofText?, compactText, String.toList_ofList]
  exact ofChars?_of_reads (reads_compact h)

/-- **A value on many lines is read as it was written.** -/
theorem ofText?_prettyText {j : Json} (h : Proper j) : ofText? j.prettyText = some j := by
  rw [ofText?, prettyText, String.toList_ofList]
  exact ofChars?_of_reads (reads_pretty h 0)

end BenchSuite.Json
