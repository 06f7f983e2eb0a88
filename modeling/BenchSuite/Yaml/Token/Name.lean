import BenchSuite.Text.Digits
import BenchSuite.Yaml.Cursor
import BenchSuite.Yaml.Token
/-!
# Names, tags and directives

The tokens that start with `&`, `*`, `!` or `%`.  A tag is kept as its bytes: escaped ones are decoded,
and each is one character of the kept text.
-/
namespace BenchSuite.Yaml

def isHexDigit (c : Char) : Bool :=
  c.isDigit || ('a' ≤ c && c ≤ 'f') || ('A' ≤ c && c ≤ 'F')

/-- **The name after `&` or `*`**, which a gap or one of a few indicators must follow. -/
def readName (c : Cursor) : Read (String × Cursor) :=
  let (name, c) := (c.skip 1).span isWordChar
  let ends := c.beforeGap || c.peek.any fun x => "?:,]\x7d%@`".toList.contains x
  if name = [] ∨ ends = false then .error .badAnchor else .ok (String.ofList name, c)

/-- Characters of a tag; `wide` ones only where the whole tag is written out. -/
def isTagUriChar (wide : Bool) (c : Char) : Bool :=
  isWordChar c || ";/?:@&=+$.%!~*'()".toList.contains c || (wide && ",[]".toList.contains c)

/-- How many bytes a character has whose first one is given. -/
def leadWidth (byte : Nat) : Nat :=
  if byte < 0x80 then 1
  else if 0xC0 ≤ byte ∧ byte < 0xE0 then 2
  else if 0xE0 ≤ byte ∧ byte < 0xF0 then 3
  else if 0xF0 ≤ byte ∧ byte < 0xF8 then 4
  else 0

def hexDigitNumber (c : Char) : Nat :=
  if c.isDigit then c.toNat - 48 else if c.isLower then c.toNat - 87 else c.toNat - 55

/-- **The bytes of a tag**, and how many characters they are written with.  The bytes of an escaped
character must all be escaped; `due` of them are still to come. -/
def readTagUri (wide : Bool) : Nat → List Char → Read (List Char × Nat)
  | due, '%' :: a :: b :: rest =>
    if isHexDigit a && isHexDigit b then do
      let byte := 16 * hexDigitNumber a + hexDigitNumber b
      let left ←
        if due = 0 then
          if leadWidth byte = 0 then .error .badTag else .ok (leadWidth byte - 1)
        else if 0x80 ≤ byte ∧ byte < 0xC0 then .ok (due - 1)
        else .error .badTag
      let (more, width) ← readTagUri wide left rest
      return (Char.ofNat byte :: more, width + 3)
    else .error .badTag
  | due, x :: rest =>
    if due ≠ 0 ∨ x = '%' then .error .badTag
    else if isTagUriChar wide x then do
      let (more, width) ← readTagUri wide 0 rest
      return (x :: more, width + 1)
    else .ok ([], 0)
  | due, [] => if due = 0 then .ok ([], 0) else .error .badTag

/-- What counts of a tag: no byte from a zero on. -/
def beforeZero (uri : List Char) : List Char := uri.takeWhile (· != Char.ofNat 0)

/-- **A handle**: `!`, word characters, and perhaps another `!`. -/
def readHandle (c : Cursor) : List Char × Cursor :=
  let (word, c) := (c.skip 1).span isWordChar
  if c.sees '!' then ('!' :: word ++ ['!'], c.skip 1) else ('!' :: word, c)

/-- Whether a handle stands for something else than itself. -/
def isNamedHandle (handle : List Char) : Bool := handle != ['!'] && handle.getLast? == some '!'

/-- A tag up to its end: its handle and the rest of it. -/
def readTagParts (c : Cursor) : Read (List Char × List Char × Cursor) := do
  if (c.skip 1).sees '<' then
    let c := c.skip 2
    let (uri, width) ← readTagUri true 0 c.rest
    let c := c.skip width
    if uri = [] ∨ c.sees '>' = false then .error .badTag
    return ([], beforeZero uri, c.skip 1)
  else
    let (handle, c) := readHandle c
    let (uri, width) ← readTagUri false 0 c.rest
    let c := c.skip width
    if isNamedHandle handle then
      if uri = [] then .error .badTag
      return (handle, beforeZero uri, c)
    else
      let suffix := beforeZero (handle.drop 1 ++ uri)
      if suffix = [] then return ([], ['!'], c) else return (['!'], suffix, c)

/-- **A tag**, which a gap must follow, or a comma in a flow collection. -/
def readTag (inFlow : Bool) (c : Cursor) : Read (Token × Cursor) := do
  let (handle, suffix, c) ← readTagParts c
  if c.beforeGap ∨ (inFlow ∧ c.sees ',') then
    return (.tag (String.ofList handle) (String.ofList suffix), c)
  else .error .badTag

/-- A part of a version: one to nine digits. -/
def readVersionPart (c : Cursor) : Read (Nat × Cursor) :=
  let (ds, c) := c.span Char.isDigit
  if ds = [] ∨ 9 < ds.length then .error .badDirective
  else .ok (Text.digitsValue ds, c)

def readVersion (c : Cursor) : Read (Token × Cursor) := do
  let (major, c) ← readVersionPart (c.skipWhile isBlank)
  if c.sees '.' = false then .error .badDirective
  let (minor, c) ← readVersionPart (c.skip 1)
  return (.version major minor, c)

def readHandleDirective (c : Cursor) : Read (Token × Cursor) := do
  let c := c.skipWhile isBlank
  if c.sees '!' = false then .error .badDirective
  let (handle, c) := readHandle c
  if (handle ≠ ['!'] ∧ isNamedHandle handle = false) ∨ c.peek.any isBlank = false then .error .badDirective
  let c := c.skipWhile isBlank
  let (uri, width) ← readTagUri true 0 c.rest
  let c := c.skip width
  if uri = [] ∨ c.beforeGap = false then .error .badDirective
  return (.handle (String.ofList handle) (String.ofList (beforeZero uri)), c)

/-- **A directive**, which takes up a whole line. -/
def readDirective (c : Cursor) : Read (Token × Cursor) := do
  let (name, c) := (c.skip 1).span isWordChar
  if c.beforeGap = false then .error .badDirective
  let (token, c) ← match String.ofList name with
    | "YAML" => readVersion c
    | "TAG" => readHandleDirective c
    | _ => .error .badDirective
  let c := (c.skipWhile isBlank).skipComment
  if c.rest ≠ [] ∧ c.beforeBreak = false then .error .badDirective
  return (token, c.readBreak.2)

end BenchSuite.Yaml
