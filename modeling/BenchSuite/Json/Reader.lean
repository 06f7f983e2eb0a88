import BenchSuite.Json.Value
/-!
# Reading JSON

A strict reader: one value with blanks around it, no trailing commas, no leading zeros, no control
characters inside quotes.  The fuel is twice the length of the text, of which every level and every
item uses up at least one character.
-/
namespace BenchSuite.Json

open Decimal

def isBlank (c : Char) : Bool := c == ' ' || c == '\n' || c == '\t' || c == '\r'

/-- The text after its leading blanks. -/
def skipBlanks (cs : List Char) : List Char := cs.dropWhile isBlank

/-- **The digits at the front of a text**, and the rest. -/
def spanDigits : List Char → List Digit × List Char
  | [] => ([], [])
  | c :: rest =>
    match digit? c with
    | none => ([], c :: rest)
    | some d => let (ds, rest) := spanDigits rest; (d :: ds, rest)

/-- The digits before the point: a zero stands alone. -/
def readWhole (cs : List Char) : Option (List Digit × List Char) :=
  match spanDigits cs with
  | ([], _) => none
  | (d :: ds, rest) => if d = 0 ∧ ds ≠ [] then none else some (d :: ds, rest)

/-- A point and the digits after it, of which there must be one. -/
def readFraction : List Char → Option (List Digit × List Char)
  | '.' :: rest =>
    match spanDigits rest with
    | ([], _) => none
    | (ds, rest) => some (ds, rest)
  | cs => some ([], cs)

/-- The digits of a power of ten, of which there must be one. -/
def readPowerDigits (negative : Bool) (cs : List Char) : Option (Option PowerOfTen × List Char) :=
  match spanDigits cs with
  | ([], _) => none
  | (ds, rest) => some (some ⟨negative, ds⟩, rest)

/-- A power of ten, if there is one. -/
def readPower : List Char → Option (Option PowerOfTen × List Char)
  | [] => some (none, [])
  | c :: rest =>
    if c = 'e' ∨ c = 'E' then
      match rest with
      | '+' :: rest => readPowerDigits false rest
      | '-' :: rest => readPowerDigits true rest
      | rest => readPowerDigits false rest
    else some (none, c :: rest)

/-- **A number at the front of a text.** -/
def readNumeral (negative : Bool) (cs : List Char) : Option (Numeral × List Char) := do
  let (whole, cs) ← readWhole cs
  let (fraction, cs) ← readFraction cs
  let (power, cs) ← readPower cs
  return (⟨negative, whole, fraction, power⟩, cs)

def hexValue? (c : Char) : Option Nat :=
  if '0' ≤ c ∧ c ≤ '9' then some (c.toNat - '0'.toNat)
  else if 'a' ≤ c ∧ c ≤ 'f' then some (c.toNat - 'a'.toNat + 10)
  else if 'A' ≤ c ∧ c ≤ 'F' then some (c.toNat - 'A'.toNat + 10)
  else none

/-- The number that four hexadecimal digits stand for. -/
def hexUnit? (a b c d : Char) : Option Nat := do
  return (((← hexValue? a) * 16 + (← hexValue? b)) * 16 + (← hexValue? c)) * 16 + (← hexValue? d)

/-- The character that an escape letter stands for. -/
def escaped? (c : Char) : Option Char :=
  match c with
  | '"' => some '"'
  | '\\' => some '\\'
  | '/' => some '/'
  | 'b' => some (Char.ofNat 8)
  | 'f' => some (Char.ofNat 12)
  | 'n' => some '\n'
  | 'r' => some '\r'
  | 't' => some '\t'
  | _ => none

/-- One element of a quoted text: a character, or a numbered 16-bit unit. -/
inductive Glyph where
  | plain (c : Char)
  | unit (u : Nat)
deriving DecidableEq, Repr

/-- **The glyphs up to the closing quote.** -/
def readGlyphs : List Char → Option (List Glyph × List Char)
  | [] => none
  | '"' :: rest => some ([], rest)
  | '\\' :: 'u' :: a :: b :: c :: d :: rest => do
    let u ← hexUnit? a b c d
    let (gs, rest) ← readGlyphs rest
    return (.unit u :: gs, rest)
  | '\\' :: c :: rest => do
    let e ← escaped? c
    let (gs, rest) ← readGlyphs rest
    return (.plain e :: gs, rest)
  | c :: rest =>
    if c.toNat < 32 ∨ c = '\\' then none
    else do
      let (gs, rest) ← readGlyphs rest
      return (.plain c :: gs, rest)

/-- Whether a unit is the first half of a pair. -/
def isHighHalf (u : Nat) : Bool := 0xD800 ≤ u && u < 0xDC00

/-- Whether a unit is the second half of a pair. -/
def isLowHalf (u : Nat) : Bool := 0xDC00 ≤ u && u < 0xE000

/-- The character that a pair stands for. -/
def pairChar (high low : Nat) : Char := Char.ofNat (0x10000 + (high - 0xD800) * 0x400 + (low - 0xDC00))

/-- **The text of glyphs**; there is none where half of a pair stands alone. -/
def glyphText? : List Glyph → Option (List Char)
  | [] => some []
  | .plain c :: rest => do return c :: (← glyphText? rest)
  | .unit u :: .unit v :: rest =>
    if isHighHalf u then
      if isLowHalf v then do return pairChar u v :: (← glyphText? rest) else none
    else if isLowHalf u then none
    else do return Char.ofNat u :: (← glyphText? (.unit v :: rest))
  | .unit u :: rest =>
    if isHighHalf u ∨ isLowHalf u then none else do return Char.ofNat u :: (← glyphText? rest)

/-- **A text up to its closing quote**, or the mark that it is none. -/
def readQuoted (cs : List Char) : Option (Option String × List Char) := do
  let (gs, rest) ← readGlyphs cs
  return ((glyphText? gs).map String.ofList, rest)

mutual

/-- **A value at the front of a text**, and the rest. -/
def readValue : Nat → List Char → Option (Json × List Char)
  | 0, _ => none
  | fuel + 1, cs =>
    match skipBlanks cs with
    | 'n' :: 'u' :: 'l' :: 'l' :: rest => some (.null, rest)
    | 't' :: 'r' :: 'u' :: 'e' :: rest => some (.bool true, rest)
    | 'f' :: 'a' :: 'l' :: 's' :: 'e' :: rest => some (.bool false, rest)
    | '"' :: rest => do
      let (s, rest) ← readQuoted rest
      return (.string s, rest)
    | '[' :: rest =>
      match skipBlanks rest with
      | ']' :: rest => some (.array [], rest)
      | rest => do
        let (items, rest) ← readItems fuel rest
        return (.array items, rest)
    | '\x7b' :: rest =>
      match skipBlanks rest with
      | '\x7d' :: rest => some (.object [], rest)
      | rest => do
        let (members, rest) ← readMembers fuel rest
        return (.object members, rest)
    | '-' :: rest => do
      let (n, rest) ← readNumeral true rest
      return (.number n, rest)
    | cs => do
      let (n, rest) ← readNumeral false cs
      return (.number n, rest)

/-- The items of a list up to its end. -/
def readItems : Nat → List Char → Option (List Json × List Char)
  | 0, _ => none
  | fuel + 1, cs => do
    let (v, rest) ← readValue fuel cs
    match skipBlanks rest with
    | ',' :: rest =>
      let (vs, rest) ← readItems fuel rest
      return (v :: vs, rest)
    | ']' :: rest => return ([v], rest)
    | _ => none

/-- The members of an object up to its end. -/
def readMembers : Nat → List Char → Option (List (Option String × Json) × List Char)
  | 0, _ => none
  | fuel + 1, cs =>
    match skipBlanks cs with
    | '"' :: rest => do
      let (k, rest) ← readQuoted rest
      match skipBlanks rest with
      | ':' :: rest =>
        let (v, rest) ← readValue fuel rest
        match skipBlanks rest with
        | ',' :: rest =>
          let (vs, rest) ← readMembers fuel rest
          return ((k, v) :: vs, rest)
        | '\x7d' :: rest => return ([(k, v)], rest)
        | _ => none
      | _ => none
    | _ => none

end

/-- **The value that a whole text is.** -/
def ofChars? (cs : List Char) : Option Json := do
  let (j, rest) ← readValue (2 * cs.length + 2) cs
  if skipBlanks rest = [] then some j else none

def ofText? (s : String) : Option Json := ofChars? s.toList

end BenchSuite.Json
