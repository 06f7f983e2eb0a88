import BenchSuite.Yaml.Node
import BenchSuite.Yaml.Problem
/-!
# What the nodes of a document mean

Which nodes are read as texts, truth values, counts, lists and records.  A scalar of any form is a text.
Truth values and counts are plain scalars, or literal blocks whose tag says so.  An empty plain scalar
is also an empty list, an empty record and an absent value.
-/
namespace BenchSuite.Yaml

/-- The full name of a common tag. -/
def commonTag (name : String) : String := "tag:yaml.org,2002:" ++ name

/-- Whether a scalar may be read as a value that its tag, if any, names. -/
def holdsValue (name : String) (form : ScalarForm) (tag : Option String) : Bool :=
  form == .plain || (form == .literal && tag == some (commonTag name))

def isNullText (s : String) : Bool := ["~", "null", "Null", "NULL"].contains s

def boolText? (s : String) : Option Bool :=
  if ["true", "True", "TRUE"].contains s then some true
  else if ["false", "False", "FALSE"].contains s then some false
  else none

/-- The value of a digit in a base of at most sixteen. -/
def digitIn? (base : Nat) (c : Char) : Option Nat :=
  let value? :=
    if '0' ≤ c ∧ c ≤ '9' then some (c.toNat - 48)
    else if 'a' ≤ c ∧ c ≤ 'f' then some (c.toNat - 87)
    else if 'A' ≤ c ∧ c ≤ 'F' then some (c.toNat - 55)
    else none
  value?.bind fun v => if v < base then some v else none

/-- The number of 64 bits that digits stand for; there must be one digit at least. -/
def numberIn? (base : Nat) (ds : List Char) : Option Nat :=
  if ds = [] then none
  else ds.foldlM (fun n c => do
    let next := base * n + (← digitIn? base c)
    if next < UInt64.size then some next else none) 0

/-- **A whole number** in decimal digits without a leading zero, or in base 16, 8 or 2 after `0x`, `0o`
or `0b`. -/
def unsignedChars? : List Char → Option Nat
  | '0' :: 'x' :: ds => numberIn? 16 ds
  | '0' :: 'o' :: ds => numberIn? 8 ds
  | '0' :: 'b' :: ds => numberIn? 2 ds
  | '0' :: _ :: _ => none
  | ds => numberIn? 10 ds

/-- **A whole number of 32 bits**, perhaps after a plus sign. -/
def countText? (s : String) : Option UInt32 := do
  let n ← unsignedChars? (match s.toList with
    | '+' :: rest => rest
    | chars => chars)
  if n < UInt32.size then some (UInt32.ofNat n) else none

namespace Node

/-- Whether a node is an empty plain scalar. -/
def isEmpty : Node → Bool
  | .scalar _ _ .plain "" => true
  | _ => false

/-- A node in a document, an alias replaced by what it stands for. -/
def target (root n : Node) : Read Node :=
  match root.resolve n with
  | some n => .ok n
  | none => .error .unknownAnchor

/-- **A text.** -/
def toText (root n : Node) : Read String := do
  match ← target root n with
  | .scalar _ _ _ text => return text
  | _ => .error (.wrongKind "a string")

/-- **A truth value.** -/
def toBool (root n : Node) : Read Bool := do
  match ← target root n with
  | .scalar _ tag form text =>
    match boolText? text with
    | some b => if holdsValue "bool" form tag then return b else .error (.wrongKind "a boolean")
    | none => .error (.wrongKind "a boolean")
  | _ => .error (.wrongKind "a boolean")

/-- **A count.** -/
def toCount (root n : Node) : Read UInt32 := do
  match ← target root n with
  | .scalar _ tag form text =>
    match countText? text with
    | some n => if holdsValue "int" form tag then return n else .error (.wrongKind "u32")
    | none => .error (.wrongKind "u32")
  | _ => .error (.wrongKind "u32")

/-- **Whether a node is an absent value**: an empty plain scalar or a spelling of null, without a tag
other than that of null. -/
def isAbsent : Node → Read Bool
  | .scalar _ none .plain text => .ok (text == "" || isNullText text)
  | .scalar _ (some tag) .plain text =>
    if tag = commonTag "null" then
      if isNullText text then .ok true else .error (.wrongKind "null")
    else .ok false
  | _ => .ok false

/-- **A count that may be absent.** -/
def toCount? (root n : Node) : Read (Option UInt32) := do
  if ← isAbsent (← target root n) then return none else return some (← toCount root n)

/-- **The items of a list.** -/
def toItems (root n : Node) : Read (List Node) := do
  match ← target root n with
  | .sequence _ items => return items
  | n => if n.isEmpty then return [] else .error (.wrongKind "a sequence")

/-- **The members of a record**, none repeated and each with one of the given names. -/
def toMembers (names : List String) (root n : Node) : Read (List (String × Node)) := do
  match ← target root n with
  | .mapping _ members =>
    let members ← members.mapM fun (k, v) => do return (← toText root k, v)
    match members.find? fun (k, _) => !names.contains k with
    | some (k, _) => .error (.unknownField k)
    | none =>
      match names.find? fun name => 1 < members.countP (·.1 == name) with
      | some name => .error (.repeatedField name)
      | none => return members
  | n => if n.isEmpty then return [] else .error (.wrongKind "a mapping")

end Node

/-- The member of a record with a name, read, or a value that takes its place. -/
def memberOr (members : List (String × Node)) (name : String) (absent : α) (read : Node → Read α) :
    Read α :=
  match members.lookup name with
  | some n => read n
  | none => .ok absent

/-- The member of a record with a name, which must be there. -/
def member (members : List (String × Node)) (name : String) (read : Node → Read α) : Read α :=
  match members.lookup name with
  | some n => read n
  | none => .error (.missingField name)

end BenchSuite.Yaml
