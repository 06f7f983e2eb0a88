import BenchSuite.Yaml.Node
import BenchSuite.Yaml.Problem
/-!
# From tokens to a document

A text holds one document.  Each kind of collection is read by a function of its own; where a node may
be left out the token that follows shows it, and an empty scalar takes its place.
-/
namespace BenchSuite.Yaml

/-- What has been read of a document, and what is left. -/
structure Progress where
  tokens : List Token
  /-- The names of anchors so far, each with its number; the latest first. -/
  names : List (String × Nat)
  /-- The handles of tags, with what they stand for. -/
  handles : List (String × String)
deriving DecidableEq, Repr

/-- A reader of a part of a document. -/
abbrev Parse := StateT Progress Read

namespace Parse

/-- The next token. -/
def peek : Parse (Option Token) := return (← get).tokens.head?

/-- Passes over the next token. -/
def advance : Parse Unit := modify fun p => { p with tokens := p.tokens.drop 1 }

/-- Whether the next token is one of a list, or there is none. -/
def endsAt (ts : List Token) : Parse Bool := do
  return match ← peek with
    | none => true
    | some t => ts.contains t

def fail (problem : Problem) : Parse α := throw problem

/-- **Names an anchor**: it gets as its number how many different names there are. -/
def nameAnchor (name : String) : Parse Nat := do
  let p ← get
  let number := p.names.length
  set { p with names := (name, number) :: p.names.filter (·.1 != name) }
  return number

/-- The number of the anchor that an alias names. -/
def findAnchor (name : String) : Parse Nat := do
  match (← get).names.find? (·.1 == name) with
  | some (_, number) => return number
  | none => fail .unknownAnchor

/-- **A tag in full**, its handle replaced by what it stands for. -/
def fullTag (handle suffix : String) : Parse String := do
  if handle = "" then return suffix
  match (← get).handles.find? (·.1 == handle) with
  | some (_, expansion) => return expansion ++ suffix
  | none => fail .unknownHandle

/-- What may stand before a node. -/
structure Properties where
  anchor : Option Nat
  tag : Option String
deriving DecidableEq, Repr

def anchor? : Parse (Option Nat) := do
  match ← peek with
  | some (.anchor name) =>
    advance
    return some (← nameAnchor name)
  | _ => return none

def tag? : Parse (Option (String × String)) := do
  match ← peek with
  | some (.tag handle suffix) =>
    advance
    return some (handle, suffix)
  | _ => return none

/-- **An anchor and a tag**, in either order. -/
def properties : Parse Properties := do
  let first ← anchor?
  let tag ← tag?
  let anchor ← if first.isNone ∧ tag.isSome then anchor? else pure first
  match tag with
  | none => return ⟨anchor, none⟩
  | some (handle, suffix) => return ⟨anchor, some (← fullTag handle suffix)⟩

mutual

/-- **A node.**  Blocks may start only in a block, and a sequence without indentation only as a key or
value of one. -/
def node (inBlock inMapping : Bool) : Nat → Parse Node
  | 0 => fail .badStructure
  | fuel + 1 => do
    match ← peek with
    | some (.alias name) =>
      advance
      return .alias (← findAnchor name)
    | _ =>
      let ⟨anchor, tag⟩ ← properties
      match ← peek with
      | some (.scalar form text) =>
        advance
        return .scalar anchor tag form text
      | some .flowSequenceStart =>
        advance
        return .sequence anchor (← flowItems true fuel)
      | some .flowMappingStart =>
        advance
        return .mapping anchor (← flowMembers true fuel)
      | t =>
        if inMapping ∧ t = some .blockEntry then
          return .sequence anchor (← looseItems fuel)
        else if inBlock ∧ t = some .blockSequenceStart then
          advance
          return .sequence anchor (← blockItems fuel)
        else if inBlock ∧ t = some .blockMappingStart then
          advance
          return .mapping anchor (← blockMembers fuel)
        else if anchor.isSome ∨ tag.isSome then return .scalar anchor tag .plain ""
        else fail .badStructure

/-- A node, or an empty one before certain tokens. -/
def nodeUnless (ts : List Token) (inBlock inMapping : Bool) : Nat → Parse Node
  | 0 => fail .badStructure
  | fuel + 1 => do
    match ← peek with
    | some t => if ts.contains t then return .empty else node inBlock inMapping fuel
    | none => node inBlock inMapping fuel

/-- The items of a block, up to its end. -/
def blockItems : Nat → Parse (List Node)
  | 0 => fail .badStructure
  | fuel + 1 => do
    match ← peek with
    | some .blockEntry =>
      advance
      let item ← nodeUnless [.blockEntry, .blockEnd] true false fuel
      return item :: (← blockItems fuel)
    | some .blockEnd =>
      advance
      return []
    | _ => fail .badStructure

/-- The items of a sequence that is not indented: there is no token at its end. -/
def looseItems : Nat → Parse (List Node)
  | 0 => fail .badStructure
  | fuel + 1 => do
    match ← peek with
    | some .blockEntry =>
      advance
      let item ← nodeUnless [.blockEntry, .key, .value, .blockEnd] true false fuel
      return item :: (← looseItems fuel)
    | _ => return []

/-- The members of a block, up to its end. -/
def blockMembers : Nat → Parse (List (Node × Node))
  | 0 => fail .badStructure
  | fuel + 1 => do
    match ← peek with
    | some .key =>
      advance
      let k ← nodeUnless [.key, .value, .blockEnd] true true fuel
      let v ← blockValue fuel
      return (k, v) :: (← blockMembers fuel)
    | some .blockEnd =>
      advance
      return []
    | _ => fail .badStructure

/-- The value of a member of a block. -/
def blockValue : Nat → Parse Node
  | 0 => fail .badStructure
  | fuel + 1 => do
    match ← peek with
    | some .value =>
      advance
      nodeUnless [.key, .value, .blockEnd] true true fuel
    | _ => return .empty

/-- **The items of a flow sequence**, up to its end.  An item with a key is a mapping of its own. -/
def flowItems (first : Bool) : Nat → Parse (List Node)
  | 0 => fail .badStructure
  | fuel + 1 => do
    if (← peek) = some .flowSequenceEnd then
      advance
      return []
    if !first then
      if (← peek) = some .flowEntry then advance else fail .badStructure
    match ← peek with
    | some .flowSequenceEnd =>
      advance
      return []
    | some .key =>
      advance
      let k ← pairKey fuel
      let v ← flowValue .flowSequenceEnd fuel
      return .mapping none [(k, v)] :: (← flowItems false fuel)
    | _ =>
      let item ← node false false fuel
      return item :: (← flowItems false fuel)

/-- The key of an item; when it is left out, the token that shows this is passed over. -/
def pairKey : Nat → Parse Node
  | 0 => fail .badStructure
  | fuel + 1 => do
    match ← peek with
    | some .value | some .flowEntry | some .flowSequenceEnd =>
      advance
      return .empty
    | _ => node false false fuel

/-- The value of a member of a flow collection with a given end. -/
def flowValue (close : Token) : Nat → Parse Node
  | 0 => fail .badStructure
  | fuel + 1 => do
    match ← peek with
    | some .value =>
      advance
      nodeUnless [.flowEntry, close] false false fuel
    | _ => return .empty

/-- **The members of a flow mapping**, up to its end. -/
def flowMembers (first : Bool) : Nat → Parse (List (Node × Node))
  | 0 => fail .badStructure
  | fuel + 1 => do
    if (← peek) = some .flowMappingEnd then
      advance
      return []
    if !first then
      if (← peek) = some .flowEntry then advance else fail .badStructure
    match ← peek with
    | some .flowMappingEnd =>
      advance
      return []
    | some .key =>
      advance
      let k ← nodeUnless [.value, .flowEntry, .flowMappingEnd] false false fuel
      let v ← flowValue .flowMappingEnd fuel
      return (k, v) :: (← flowMembers false fuel)
    | _ =>
      let k ← node false false fuel
      return (k, .empty) :: (← flowMembers false fuel)

end

/-- Handles that need no directive. -/
def commonHandles : List (String × String) := [("!", "!"), ("!!", "tag:yaml.org,2002:")]

/-- **The directives before a document**: at most one version, which must be known, and each handle at
most once. -/
def directives (versioned : Bool) : Nat → Parse Unit
  | 0 => fail .badDirective
  | fuel + 1 => do
    match ← peek with
    | some (.version major minor) =>
      advance
      if versioned ∨ major ≠ 1 ∨ (minor ≠ 1 ∧ minor ≠ 2) then fail .badDirective
      directives true fuel
    | some (.handle name expansion) =>
      advance
      let p ← get
      if p.handles.any (·.1 == name) then fail .badDirective
      set { p with handles := p.handles ++ [(name, expansion)] }
      directives versioned fuel
    | _ => modify fun p => { p with handles := p.handles ++ commonHandles }

/-- Whether a token can only come before a document. -/
def isPreamble : Token → Bool
  | .version .. | .handle .. | .documentStart => true
  | _ => false

/-- **The one document of a text.**  Nothing but ends may follow it. -/
def document (fuel : Nat) : Parse Node := do
  let root ← match ← peek with
    | none => pure Node.empty
    | some t =>
      directives false fuel
      if isPreamble t then
        if (← peek) = some .documentStart then advance else fail .badStructure
        match ← peek with
        | none | some .documentStart | some .documentEnd | some (.version ..) | some (.handle ..) =>
          pure .empty
        | _ => node true false fuel
      else node true false fuel
  let rest := (← get).tokens.dropWhile (· == .documentEnd)
  if rest = [] then return root else fail .badStructure

end Parse

/-- **The document that tokens make up.** -/
def Node.ofTokens (tokens : List Token) : Read Node :=
  (Parse.document (4 * tokens.length + 8)).run' ⟨tokens, [], []⟩

end BenchSuite.Yaml
