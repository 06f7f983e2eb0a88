import BenchSuite.Yaml.Token
/-!
# YAML documents

A document as a tree.  A node may carry an anchor, and an alias stands for the node with its anchor.
Anchors are numbered: an anchor gets as its number how many different names there have been before.  A
number may be given twice, when a name is used again, and then the later node has it.
-/
namespace BenchSuite.Yaml

/-- A node of a document. -/
inductive Node where
  | scalar (anchor : Option Nat) (tag : Option String) (form : ScalarForm) (text : String)
  | sequence (anchor : Option Nat) (items : List Node)
  | mapping (anchor : Option Nat) (members : List (Node × Node))
  | alias (anchor : Nat)
deriving Repr

namespace Node

/-- What stands where nothing is written. -/
def empty : Node := .scalar none none .plain ""

/-- A node under its anchor. -/
def entry (anchor : Option Nat) (n : Node) : List (Nat × Node) := (anchor.map fun a => (a, n)).toList

mutual

/-- **The nodes with anchors**, in the order in which they start. -/
def anchored : Node → List (Nat × Node)
  | .scalar a t f s => entry a (.scalar a t f s)
  | .sequence a items => entry a (.sequence a items) ++ anchoredItems items
  | .mapping a members => entry a (.mapping a members) ++ anchoredMembers members
  | .alias _ => []

def anchoredItems : List Node → List (Nat × Node)
  | [] => []
  | n :: rest => anchored n ++ anchoredItems rest

def anchoredMembers : List (Node × Node) → List (Nat × Node)
  | [] => []
  | (k, v) :: rest => anchored k ++ anchored v ++ anchoredMembers rest

end

/-- **The node that an alias stands for**: the last one with its anchor. -/
def resolve (root : Node) : Node → Option Node
  | .alias a => (root.anchored.reverse.find? (·.1 == a)).map (·.2)
  | n => some n

end Node
end BenchSuite.Yaml
