import BenchSuite.Decimal.Numeral
/-!
# JSON values

A JSON text as a tree.  Numbers keep their written form, since what a number means depends on what it
is read as; members keep their order and repetitions.  A text that escapes half of a surrogate pair is
well formed but stands for no text, and this too is kept: only a reader that wants the text refuses it.
-/
namespace BenchSuite

open Decimal (Numeral Digit)

/-- A JSON value. -/
inductive Json where
  | null
  | bool (b : Bool)
  | number (n : Numeral)
  | string (s : Option String)
  | array (items : List Json)
  | object (members : List (Option String × Json))
deriving Repr

namespace Json

/-- A text value. -/
def text (s : String) : Json := .string (some s)

/-- A whole number as a value. -/
def nat (n : Nat) : Json := .number ⟨false, Decimal.digitsOf n, [], none⟩

/-- An object with the given members. -/
def record (members : List (String × Json)) : Json :=
  .object (members.map fun (k, v) => (some k, v))

/-- The values of the members with a key. -/
def withKey (key : String) (members : List (Option String × Json)) : List Json :=
  members.filterMap fun (k, v) => if k = some key then some v else none

/-- **The members of a record with the given keys**, absent ones as `none`.  Further members are passed
over, but a key given twice, or one that is no text, is refused.  A list stands for a record when it
holds the values of all keys in order. -/
def fields (keys : List String) : Json → Option (List (Option Json))
  | .object members =>
    if members.all (·.1.isSome) && keys.all (fun k => (withKey k members).length ≤ 1) then
      some (keys.map fun k => (withKey k members).head?)
    else none
  | .array items => if items.length = keys.length then some (items.map some) else none
  | _ => none

/-- The text of a text value. -/
def toText? : Json → Option String
  | .string s => s
  | _ => none

def toBool? : Json → Option Bool
  | .bool b => some b
  | _ => none

def isObject : Json → Bool
  | .object _ => true
  | _ => false

/-- The items of a list. -/
def items? : Json → Option (List Json)
  | .array items => some items
  | _ => none

end Json
end BenchSuite
