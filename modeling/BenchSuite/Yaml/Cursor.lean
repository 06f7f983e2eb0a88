import BenchSuite.Yaml.Problem
/-!
# A place in a YAML text

The characters still to be read, and where they stand.  Lines end with a carriage return, a line feed,
both together, or one of three further characters.
-/
namespace BenchSuite.Yaml

/-- Whether a character may occur at all. -/
def isAllowed (c : Char) : Bool :=
  let n := c.toNat
  n == 0x09 || n == 0x0A || n == 0x0D || (0x20 ≤ n && n ≤ 0x7E) || n == 0x85
    || (0xA0 ≤ n && n ≤ 0xFFFD) || 0x10000 ≤ n

/-- Whether a character ends a line. -/
def isBreak (c : Char) : Bool :=
  c == '\r' || c == '\n' || c.toNat == 0x85 || c.toNat == 0x2028 || c.toNat == 0x2029

def isBlank (c : Char) : Bool := c == ' ' || c == '\t'

/-- Whether a text is at its end, at the end of a line or at a blank. -/
def atGap : List Char → Bool
  | [] => true
  | c :: _ => isBlank c || isBreak c

/-- Letters, digits, hyphens and underscores of ASCII. -/
def isWordChar (c : Char) : Bool := c.isAlphanum || c == '-' || c == '_'

/-- A place in a text. -/
structure Cursor where
  rest : List Char
  /-- More than there are characters in the whole text; no loop over them takes as many steps. -/
  bound : Nat
  /-- Characters before this place. -/
  index : Nat
  line : Nat
  column : Nat
deriving DecidableEq, Repr

namespace Cursor

def start (text : List Char) : Cursor := ⟨text, text.length + 1, 0, 0, 0⟩

/-- The next character. -/
def peek (c : Cursor) : Option Char := c.rest.head?

/-- Whether the next character is a given one. -/
def sees (c : Cursor) (x : Char) : Bool := c.rest.head? == some x

/-- Whether the place is before a gap. -/
def beforeGap (c : Cursor) : Bool := atGap c.rest

/-- Whether the place is before the end of a line. -/
def beforeBreak (c : Cursor) : Bool := c.rest.head?.any isBreak

/-- Passes over characters of one line. -/
def skip (c : Cursor) (n : Nat) : Cursor :=
  { c with rest := c.rest.drop n, index := c.index + n, column := c.column + n }

/-- **The longest run of characters of a kind**, and the place after it. -/
def span (c : Cursor) (kind : Char → Bool) : List Char × Cursor :=
  let run := c.rest.takeWhile kind
  (run, c.skip run.length)

/-- Passes over the longest run of characters of a kind. -/
def skipWhile (c : Cursor) (kind : Char → Bool) : Cursor := (c.span kind).2

/-- The place at the start of the next line, which is `width` characters on. -/
def nextLine (c : Cursor) (width : Nat) : Cursor :=
  ⟨c.rest.drop width, c.bound, c.index + width, c.line + 1, 0⟩

/-- **The line break at a place**, in the form in which it is kept, and the place after it. -/
def readBreak (c : Cursor) : List Char × Cursor :=
  match c.rest with
  | '\r' :: '\n' :: _ => (['\n'], c.nextLine 2)
  | b :: _ =>
    if b.toNat = 0x2028 ∨ b.toNat = 0x2029 then ([b], c.nextLine 1)
    else if isBreak b then (['\n'], c.nextLine 1)
    else ([], c)
  | [] => ([], c)

/-- Passes over a mark of the byte order at the start of a line.  It takes up a column like any other
character. -/
def skipOrderMark (c : Cursor) : Cursor :=
  if c.column = 0 ∧ c.sees (Char.ofNat 0xFEFF) then c.skip 1 else c

/-- Passes over a comment. -/
def skipComment (c : Cursor) : Cursor :=
  if c.sees '#' then c.skipWhile fun x => !isBreak x else c

/-- **Whether a line starts with a mark of three characters**, `---` or `...`, and a gap. -/
def beforeMark (c : Cursor) (x : Char) : Bool :=
  c.column == 0 && c.rest.take 3 == [x, x, x] && atGap (c.rest.drop 3)

/-- Whether a document ends at a place. -/
def beforeDocumentMark (c : Cursor) : Bool := c.beforeMark '-' || c.beforeMark '.'

end Cursor
end BenchSuite.Yaml
