import BenchSuite.Yaml.Token.Name
import BenchSuite.Yaml.Token.Scalar
/-!
# From text to tokens

Tokens are read from left to right.  Whether a word is a key shows only at the colon behind it; so the
place of a possible key among the tokens is remembered, one for each flow collection that is open, and
the token that makes it a key is put in there afterwards.  Such a key lies within one line and 1024
characters.
-/
namespace BenchSuite.Yaml

/-- A word that would be a key if a colon came next. -/
structure PossibleKey where
  /-- It stands where its block can have nothing else. -/
  required : Bool
  /-- How many tokens come before it. -/
  position : Nat
  index : Nat
  line : Nat
  column : Nat
deriving DecidableEq, Repr

/-- How far a text has been read, and what the next character may be. -/
structure Scanner where
  cursor : Cursor
  tokens : Array Token
  /-- The columns of the open blocks, innermost first. -/
  indents : List Nat
  /-- The possible key in the innermost collection. -/
  pending : Option PossibleKey
  /-- Those in the collections around each open flow collection. -/
  outer : List (Option PossibleKey)
  /-- A key without an indicator may start here. -/
  keyAllowed : Bool
deriving DecidableEq, Repr

namespace Scanner

def start (text : List Char) : Scanner := ⟨.start text, #[], [], none, [], true⟩

def inFlow (s : Scanner) : Bool := !s.outer.isEmpty

/-- The least column that is inside of the innermost block. -/
def inner (s : Scanner) : Nat := match s.indents with
  | [] => 0
  | i :: _ => i + 1

def emit (s : Scanner) (t : Token) : Scanner := { s with tokens := s.tokens.push t }

/-- **Passes over blanks, comments and line breaks**, and marks of the byte order.  A tab is passed over
only where no key may start. -/
def skipGap : Nat → Scanner → Scanner
  | 0, s => s
  | fuel + 1, s =>
    let tabs := s.inFlow || !s.keyAllowed
    let c := (s.cursor.skipOrderMark.skipWhile fun x => x == ' ' || (tabs && x == '\t')).skipComment
    if c.beforeBreak then
      skipGap fuel { s with cursor := c.readBreak.2, keyAllowed := s.keyAllowed || !s.inFlow }
    else { s with cursor := c }

/-- A possible key once the text has gone on: no longer one when too far back. -/
def expire (c : Cursor) : Option PossibleKey → Read (Option PossibleKey)
  | none => .ok none
  | some k =>
    if k.line < c.line ∨ k.index + 1024 < c.index then
      if k.required then .error .keyWithoutValue else .ok none
    else .ok (some k)

/-- Gives up the innermost possible key when it is too far back.  Those around it are looked at when they
are the innermost again. -/
def expireKey (s : Scanner) : Read Scanner := do
  return { s with pending := ← expire s.cursor s.pending }

/-- Gives up the innermost possible key. -/
def dropKey (s : Scanner) : Read Scanner :=
  if s.pending.any PossibleKey.required then .error .keyWithoutValue else .ok { s with pending := none }

/-- Notes a possible key at this place, if one may start here. -/
def noteKey (s : Scanner) : Read Scanner :=
  if s.keyAllowed then do
    let s ← s.dropKey
    let c := s.cursor
    let required := !s.inFlow && s.indents.head? == some c.column
    return { s with pending := some ⟨required, s.tokens.size, c.index, c.line, c.column⟩ }
  else .ok s

/-- **Opens a block** at a column that is further in than the innermost one.  Its start token goes to
a given position. -/
def openBlock (s : Scanner) (column position : Nat) (t : Token) : Scanner :=
  if !s.inFlow && s.inner ≤ column then
    { s with indents := column :: s.indents, tokens := s.tokens.insertIdxIfInBounds position t }
  else s

/-- An end token for each block of a list that satisfies a condition, up to the first that does not. -/
def closeWhile (out : Nat → Bool) : List Nat → Array Token → List Nat × Array Token
  | [], tokens => ([], tokens)
  | i :: rest, tokens =>
    if out i then closeWhile out rest (tokens.push .blockEnd) else (i :: rest, tokens)

/-- **Closes the blocks** that are further in than a column allows. -/
def closeBlocks (s : Scanner) (out : Nat → Bool) : Scanner :=
  if s.inFlow then s
  else
    let (indents, tokens) := closeWhile out s.indents s.tokens
    { s with indents, tokens }

/-- Closes all blocks before a mark that ends them. -/
def closeAll (s : Scanner) : Read Scanner := do
  let s ← (s.closeBlocks fun _ => true).dropKey
  return { s with keyAllowed := false }

/-- A token of some characters. -/
def take (s : Scanner) (width : Nat) (t : Token) : Scanner :=
  { s.emit t with cursor := s.cursor.skip width }

/-! ## The kinds of token -/

def openFlow (s : Scanner) (t : Token) : Read Scanner := do
  let s ← s.noteKey
  let outer := s.pending :: s.outer
  return { s.take 1 t with outer, pending := none, keyAllowed := true }

def closeFlow (s : Scanner) (t : Token) : Read Scanner := do
  let s ← s.dropKey
  let s := match s.outer with
    | [] => s
    | k :: rest => { s with pending := k, outer := rest }
  return { s.take 1 t with keyAllowed := false }

def flowEntry (s : Scanner) : Read Scanner := do
  let s ← s.dropKey
  return { s.take 1 .flowEntry with keyAllowed := true }

/-- Opens a block for an indicator, which may stand only where a line begins. -/
def openFor (s : Scanner) (t : Token) : Read Scanner :=
  if s.inFlow then .ok s
  else if s.keyAllowed then .ok (s.openBlock s.cursor.column s.tokens.size t)
  else .error .misplacedIndicator

def blockEntry (s : Scanner) : Read Scanner := do
  let s ← (← s.openFor .blockSequenceStart).dropKey
  return { s.take 1 .blockEntry with keyAllowed := true }

/-- The indicator of a key. -/
def explicitKey (s : Scanner) : Read Scanner := do
  let inBlock := !s.inFlow
  let s ← (← s.openFor .blockMappingStart).dropKey
  return { s.take 1 .key with keyAllowed := inBlock }

/-- **A colon**, which makes a key of the possible key before it. -/
def value (s : Scanner) : Read Scanner := do
  match s.pending with
  | some k =>
    let s := { s with tokens := s.tokens.insertIdxIfInBounds k.position .key, pending := none }
    let s := s.openBlock k.column k.position .blockMappingStart
    return { s.take 1 .value with keyAllowed := false }
  | none =>
    let inBlock := !s.inFlow
    let s ← s.openFor .blockMappingStart
    return { s.take 1 .value with keyAllowed := inBlock }

/-- A token that may be a key, read by a given reader. -/
def word (s : Scanner) (read : Cursor → Read (Token × Cursor)) : Read Scanner := do
  let s ← s.noteKey
  let (t, cursor) ← read s.cursor
  return { s.emit t with cursor, keyAllowed := false }

def blockScalar (s : Scanner) (form : ScalarForm) : Read Scanner := do
  let s ← s.dropKey
  let (text, cursor) ← blockText form s.inner (s.cursor.skip 1)
  return { s.emit (.scalar form (String.ofList text)) with cursor, keyAllowed := true }

def quotedScalar (s : Scanner) (form : ScalarForm) (quote : Char) : Read Scanner :=
  s.word fun c => do
    let (text, c) ← quotedText quote c.bound (c.skip 1)
    return (.scalar form (String.ofList text), c)

def plainScalar (s : Scanner) : Read Scanner := do
  let s ← s.noteKey
  let c := s.cursor
  let (text, broken, cursor) ← plainText s.inFlow s.inner c.bound Gap.none c
  return { s.emit (.scalar .plain (String.ofList text)) with cursor, keyAllowed := broken }

/-- Whether a plain scalar may start before a text. -/
def startsPlain (inFlow : Bool) (x : Char) (rest : List Char) : Bool :=
  if x == '-' then !rest.head?.any isBlank
  else if x == '?' || x == ':' then !inFlow && !atGap rest
  else !(isBlank x || isBreak x || "-?:,[]\x7b\x7d#&*!|>'\"%@`".toList.contains x)

/-- **Reads the token** that starts with a character. -/
def readToken (s : Scanner) (x : Char) (rest : List Char) : Read Scanner :=
  let c := s.cursor
  let indicator := s.inFlow || atGap rest
  if c.column = 0 ∧ x = '%' then do
    let s ← s.closeAll
    let (t, cursor) ← readDirective s.cursor
    return { s.emit t with cursor }
  else if c.beforeMark '-' then do return (← s.closeAll).take 3 .documentStart
  else if c.beforeMark '.' then do return (← s.closeAll).take 3 .documentEnd
  else if x = '[' then s.openFlow .flowSequenceStart
  else if x = '\x7b' then s.openFlow .flowMappingStart
  else if x = ']' then s.closeFlow .flowSequenceEnd
  else if x = '\x7d' then s.closeFlow .flowMappingEnd
  else if x = ',' then s.flowEntry
  else if x = '-' ∧ atGap rest then s.blockEntry
  else if x = '?' ∧ indicator then s.explicitKey
  else if x = ':' ∧ indicator then s.value
  else if x = '*' then s.word fun c => do let (name, c) ← readName c; return (.alias name, c)
  else if x = '&' then s.word fun c => do let (name, c) ← readName c; return (.anchor name, c)
  else if x = '!' then s.word (readTag s.inFlow)
  else if x = '|' ∧ s.inFlow = false then s.blockScalar .literal
  else if x = '>' ∧ s.inFlow = false then s.blockScalar .folded
  else if x = '\'' then s.quotedScalar .singleQuoted x
  else if x = '"' then s.quotedScalar .doubleQuoted x
  else if startsPlain s.inFlow x rest then s.plainScalar
  else .error .strayCharacter

/-- **All tokens** from a place on. -/
def run : Nat → Scanner → Read (Array Token)
  | 0, _ => .error .strayCharacter
  | fuel + 1, s => do
    let s ← (s.skipGap s.cursor.bound).expireKey
    let column := s.cursor.column
    let s := s.closeBlocks (column < ·)
    match s.cursor.rest with
    | [] => return (← s.closeAll).tokens
    | x :: rest => run fuel (← s.readToken x rest)

end Scanner

/-- **The tokens of a text.** -/
def Token.ofChars (text : List Char) : Read (List Token) := do
  if text.all isAllowed then
    return (← (Scanner.start text).run (text.length + 1)).toList
  else .error .forbiddenCharacter

end BenchSuite.Yaml
