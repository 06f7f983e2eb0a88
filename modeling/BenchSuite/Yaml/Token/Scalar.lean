import BenchSuite.Yaml.Cursor
import BenchSuite.Yaml.Token
/-!
# Scalars

How a scalar that goes on over several lines becomes one text: a single line break between two lines
becomes a blank, and of several the first is dropped.  Plain and quoted scalars are folded in this way
together with the blanks around the breaks; a literal block keeps its lines, and a folded block folds
only between lines that start at its indentation.
-/
namespace BenchSuite.Yaml

/-- Blanks and line breaks between two words of a scalar. -/
structure Gap where
  /-- Blanks before any line break. -/
  blanks : List Char
  /-- The first line break. -/
  first : List Char
  /-- All later line breaks, the last one first. -/
  later : List Char
  /-- A line has ended. -/
  broken : Bool
deriving DecidableEq, Repr

namespace Gap

def none : Gap := ⟨[], [], [], false⟩

/-- **The text of a gap**: its blanks where it lies in one line, and its breaks folded otherwise. -/
def text (g : Gap) : List Char :=
  if g.broken then
    if g.first = ['\n'] then if g.later = [] then [' '] else g.later.reverse
    else g.first ++ g.later.reverse
  else g.blanks

/-- A line break at the end of a line of a gap. -/
def addBreak (g : Gap) (b : List Char) : Gap :=
  if g.broken then { g with later := b.reverse ++ g.later } else ⟨[], b, [], true⟩

/-- **Takes in blanks and breaks** up to the next word.  A tab may not stand before column `inner` of a
later line. -/
def read (inner : Nat) : Nat → Cursor → Gap → Read (Gap × Cursor)
  | 0, c, g => .ok (g, c)
  | fuel + 1, c, g => do
    let (blanks, next) := c.span isBlank
    if g.broken ∧ (blanks.take (inner - c.column)).contains '\t' then .error .tabIndentation
    let g := if g.broken then g else { g with blanks }
    if next.beforeBreak then
      let (b, c) := next.readBreak
      read inner fuel c (g.addBreak b)
    else return (g, next)

end Gap

/-! ## Plain scalars -/

/-- Characters that structure a flow collection. -/
def isFlowBracket (c : Char) : Bool := c == '[' || c == ']' || c == '\x7b' || c == '\x7d'

/-- **A word of a plain scalar.**  It ends before a gap, before a colon with a gap, and inside a flow
collection before a comma or bracket. -/
def plainWord (inFlow : Bool) : List Char → Read (List Char)
  | [] => .ok []
  | x :: rest =>
    if isBlank x || isBreak x then .ok []
    else if inFlow && x == ':' && rest.head?.any (fun y => y == ',' || y == '?' || isFlowBracket y) then
      .error .strayColon
    else if (x == ':' && atGap rest) || (inFlow && (x == ',' || isFlowBracket x)) then .ok []
    else do return x :: (← plainWord inFlow rest)

/-- **A plain scalar** from a place on, after a gap: its text, whether a line has ended behind it, and
the place after it. -/
def plainText (inFlow : Bool) (inner : Nat) : Nat → Gap → Cursor → Read (List Char × Bool × Cursor)
  | 0, g, c => .ok ([], g.broken, c)
  | fuel + 1, g, c =>
    if c.beforeDocumentMark || c.sees '#' then .ok ([], g.broken, c)
    else do
      let word ← plainWord inFlow c.rest
      let c := c.skip word.length
      let (text, g) := if word = [] then ([], g) else (g.text ++ word, Gap.none)
      if c.rest = [] ∨ c.beforeGap = false then return (text, g.broken, c)
      let (g, c) ← g.read inner c.bound c
      if inFlow = false ∧ c.column < inner then return (text, g.broken, c)
      let (more, broken, c) ← plainText inFlow inner fuel g c
      return (text ++ more, broken, c)

/-! ## Quoted scalars -/

/-- The value of a hexadecimal digit. -/
def hexValue? (c : Char) : Option Nat :=
  if c.isDigit then some (c.toNat - 48)
  else if 'a' ≤ c ∧ c ≤ 'f' then some (c.toNat - 87)
  else if 'A' ≤ c ∧ c ≤ 'F' then some (c.toNat - 55)
  else none

/-- The number that hexadecimal digits stand for. -/
def hexNumber? (ds : List Char) : Option Nat :=
  ds.foldlM (fun n c => do return 16 * n + (← hexValue? c)) 0

/-- The character that a letter after a backslash stands for. -/
def escapedChar? (c : Char) : Option Char :=
  match c with
  | '0' => some (Char.ofNat 0)
  | 'a' => some (Char.ofNat 7)
  | 'b' => some (Char.ofNat 8)
  | 't' | '\t' => some '\t'
  | 'n' => some '\n'
  | 'v' => some (Char.ofNat 11)
  | 'f' => some (Char.ofNat 12)
  | 'r' => some '\r'
  | 'e' => some (Char.ofNat 27)
  | ' ' => some ' '
  | '"' => some '"'
  | '/' => some '/'
  | '\\' => some '\\'
  | 'N' => some (Char.ofNat 0x85)
  | '_' => some (Char.ofNat 0xA0)
  | 'L' => some (Char.ofNat 0x2028)
  | 'P' => some (Char.ofNat 0x2029)
  | _ => none

/-- How many digits follow a letter that names a character by its number. -/
def escapeWidth? (c : Char) : Option Nat :=
  match c with
  | 'x' => some 2
  | 'u' => some 4
  | 'U' => some 8
  | _ => none

/-- **What stands for one character after a backslash**, and how long it is. -/
def readEscape : List Char → Read (Char × Nat)
  | [] => .error .badEscape
  | x :: rest =>
    match escapeWidth? x with
    | some width =>
      let ds := rest.take width
      match hexNumber? ds with
      | some n =>
        if ds.length = width ∧ n.isValidChar then .ok (Char.ofNat n, width + 1) else .error .badEscape
      | none => .error .badEscape
    | none =>
      match escapedChar? x with
      | some y => .ok (y, 1)
      | none => .error .badEscape

/-- **A word of a quoted scalar**, whether it ends in an escaped line break, and the place after it. -/
def quotedWord (quote : Char) : Nat → Cursor → Read (List Char × Bool × Cursor)
  | 0, c => .ok ([], false, c)
  | fuel + 1, c =>
    match c.rest with
    | [] => .ok ([], false, c)
    | x :: rest =>
      if isBlank x || isBreak x then .ok ([], false, c)
      else if quote = '\'' ∧ x = '\'' ∧ rest.head? = some '\'' then do
        let (word, broken, c) ← quotedWord quote fuel (c.skip 2)
        return ('\'' :: word, broken, c)
      else if x = quote then .ok ([], false, c)
      else if quote = '"' ∧ x = '\\' then
        if rest.head?.any isBreak then .ok ([], true, (c.skip 1).readBreak.2)
        else do
          let (y, width) ← readEscape rest
          let (word, broken, c) ← quotedWord quote fuel (c.skip (width + 1))
          return (y :: word, broken, c)
      else do
        let (word, broken, c) ← quotedWord quote fuel (c.skip 1)
        return (x :: word, broken, c)

/-- **A quoted scalar** up to its closing quote, and the place after it. -/
def quotedText (quote : Char) : Nat → Cursor → Read (List Char × Cursor)
  | 0, _ => .error .unclosedQuote
  | fuel + 1, c =>
    if c.beforeDocumentMark ∨ c.rest = [] then .error .unclosedQuote
    else do
      let (word, broken, c) ← quotedWord quote c.bound c
      if c.sees quote then return (word, c.skip 1)
      let (g, c) ← Gap.read 0 c.bound c { Gap.none with broken }
      let (more, c) ← quotedText quote fuel c
      return (word ++ g.text ++ more, c)

/-! ## Block scalars -/

/-- What becomes of the line breaks at the end of a block. -/
inductive Chomping where
  /-- None is kept. -/
  | strip
  /-- One is kept. -/
  | clip
  /-- All are kept. -/
  | keep
deriving DecidableEq, Repr

/-- A sign of chomping. -/
def chomping? (c : Char) : Option Chomping :=
  if c = '+' then some .keep else if c = '-' then some .strip else none

/-- **The header of a block**: chomping and indentation in either order, each at most once. -/
def readBlockHeader (c : Cursor) : Read (Chomping × Option Nat × Cursor) := do
  let sign (c : Cursor) : Option Chomping × Cursor :=
    match c.peek.bind chomping? with
    | some chomping => (some chomping, c.skip 1)
    | none => (none, c)
  let width (c : Cursor) : Read (Option Nat × Cursor) :=
    match c.peek with
    | some d =>
      if d = '0' then .error .badBlockHeader
      else if d.isDigit then .ok (some (d.toNat - 48), c.skip 1)
      else .ok (none, c)
    | none => .ok (none, c)
  let (first, c) := sign c
  let (indent, c) ← width c
  let (second, c) := if first.isNone ∧ indent.isSome then sign c else (none, c)
  return ((first.or second).getD .clip, indent, c)

/-- The blanks that may indent a line, at most up to a column. -/
def skipIndent (limit : Option Nat) (c : Cursor) : Cursor :=
  let n := (c.rest.takeWhile (· == ' ')).length
  c.skip (match limit with
    | none => n
    | some l => min n (l - c.column))

/-- **Empty lines** before a line of a block: their breaks, the deepest column reached, and the place
after the indentation of that line. -/
def emptyLines (limit : Option Nat) : Nat → Nat → Cursor → Read (List Char × Nat × Cursor)
  | 0, deepest, c => .ok ([], deepest, c)
  | fuel + 1, deepest, c =>
    let c := skipIndent limit c
    let deepest := max deepest c.column
    if limit.all (c.column < ·) ∧ c.sees '\t' then .error .tabIndentation
    else if c.beforeBreak then do
      let (b, c) := c.readBreak
      let (more, deepest, c) ← emptyLines limit fuel deepest c
      return (b ++ more, deepest, c)
    else .ok ([], deepest, c)

/-- The break between two lines of a block as it goes into the text. -/
def joinLines (form : ScalarForm) (first later : List Char) (blankBefore blankAfter : Bool) : List Char :=
  if form = .folded ∧ first = ['\n'] ∧ blankBefore = false ∧ blankAfter = false then
    if later = [] then [' '] else later
  else first ++ later

/-- **The lines of a block**, from its first line on: `first` and `later` are the breaks before it. -/
def blockLines (form : ScalarForm) (chomping : Chomping) (indent : Nat) :
    Nat → List Char → List Char → Bool → Cursor → Read (List Char × Cursor)
  | 0, _, _, _, c => .ok ([], c)
  | fuel + 1, first, later, blankBefore, c =>
    if c.column = indent ∧ c.rest ≠ [] then do
      let blank := c.peek.any isBlank
      let joined := joinLines form first later blankBefore blank
      let (line, c) := c.span fun x => !isBreak x
      let (first, c) := c.readBreak
      let (later, _, c) ← emptyLines (some indent) c.bound 0 c
      let (more, c) ← blockLines form chomping indent fuel first later blank c
      return (joined ++ line ++ more, c)
    else
      let kept := match chomping with
        | .strip => []
        | .clip => first
        | .keep => first ++ later
      .ok (kept, c)

/-- **A block scalar** after its indicator: its text, and the place after it.  `inner` is the least
column that is inside of the block around it. -/
def blockText (form : ScalarForm) (inner : Nat) (c : Cursor) : Read (List Char × Cursor) := do
  let (chomping, width, c) ← readBlockHeader c
  let c := (c.skipWhile isBlank).skipComment
  if c.rest ≠ [] ∧ c.beforeBreak = false then .error .badBlockHeader
  let c := c.readBreak.2
  let limit := width.map fun w => (inner - 1) + w
  let (later, deepest, c) ← emptyLines limit c.bound 0 c
  let indent := limit.getD (max (max deepest inner) 1)
  blockLines form chomping indent c.bound [] later false c

end BenchSuite.Yaml
