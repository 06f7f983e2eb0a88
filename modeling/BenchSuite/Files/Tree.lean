import BenchSuite.Files.System
/-!
# File trees

A file system as a value: a file, or a directory with what lies in it by name.  A path leads from one
directory to a place part by part, and every part but the last must lead to a directory.  What lies on
the way is kept while a path is followed, so that a path may go back up.
-/
namespace BenchSuite

/-- A file with its bytes, or a directory with what lies in it. -/
inductive FileTree where
  | file (bytes : ByteArray)
  | directory (children : List (String × FileTree))

/-- A place in a tree: the names that lead there from the root. -/
abbrev Place := List String

namespace FileTree

/-- A directory in which nothing lies. -/
def empty : FileTree := .directory []

def isDirectory : FileTree → Bool
  | .directory _ => true
  | .file _ => false

/-- What lies in a directory under a name. -/
def child? (name : String) : FileTree → Option FileTree
  | .directory children => children.lookup name
  | .file _ => none

/-- **What lies at a place.** -/
def get? (t : FileTree) : Place → Option FileTree
  | [] => some t
  | name :: rest => (t.child? name).bind fun child => get? child rest

/-- One child of a directory changed, or added where there is none. -/
def changeChild (name : String) (f : FileTree → FileTree) :
    List (String × FileTree) → List (String × FileTree)
  | [] => [(name, f empty)]
  | (n, t) :: rest => if n = name then (n, f t) :: rest else (n, t) :: changeChild name f rest

/-- **The tree with something else at a place.**  Directories on the way are added; below a file there is
no place. -/
def set (t : FileTree) (p : Place) (new : FileTree) : FileTree :=
  match p, t with
  | [], _ => new
  | name :: rest, .directory children =>
    .directory (changeChild name (fun child => set child rest new) children)
  | _ :: _, .file bytes => .file bytes

/-- The tree without a place and all below it. -/
def erase (t : FileTree) (p : Place) : FileTree :=
  match p, t with
  | [name], .directory children => .directory (children.filter (·.1 != name))
  | name :: rest, .directory children =>
    if (children.lookup name).isSome then
      .directory (changeChild name (fun child => erase child rest) children)
    else .directory children
  | _, t => t

mutual

/-- **All files of a tree**, each with its place. -/
def files : FileTree → List (Place × ByteArray)
  | .file bytes => [([], bytes)]
  | .directory children => filesIn children

/-- All files that lie in a directory. -/
def filesIn : List (String × FileTree) → List (Place × ByteArray)
  | [] => []
  | (name, t) :: rest => (files t).map (fun (p, bytes) => (name :: p, bytes)) ++ filesIn rest

end

/-! ## Following paths -/

/-- A way from the root: the names of its steps with what lies there, the last step first. -/
abbrev Trail := List (String × Option FileTree)

namespace Trail

/-- What lies at the end of a way. -/
def target (root : FileTree) : Trail → Option FileTree
  | [] => some root
  | (_, t) :: _ => t

/-- The place to which a way leads. -/
def place (trail : Trail) : Place := (trail.map (·.1)).reverse

/-- One more step, to what lies under a name. -/
def step (root : FileTree) (trail : Trail) (name : String) : Trail :=
  (name, (trail.target root).bind (child? name)) :: trail

/-- The way to a place. -/
def toPlace (root : FileTree) (p : Place) : Trail := p.foldl (step root) []

end Trail

/-- The longest name, in bytes. -/
def maxNameLength : Nat := 255

/-- The longest path, in bytes. -/
def maxPathLength : Nat := 4095

/-- **One part of a path followed** from the end of a way. -/
def enter (root : FileTree) (trail : Trail) (part : String) : Except FileError Trail :=
  match trail.target root with
  | none => .error .missing
  | some (.file _) => .error .notDirectory
  | some (.directory _) =>
    if part = "" ∨ part = "." then .ok trail
    else if part = ".." then .ok trail.tail
    else if maxNameLength < part.utf8ByteSize then .error .nameTooLong
    else .ok (trail.step root part)

/-- The parts of a path. -/
def pathParts (path : String) : Except FileError (List String) :=
  if path.toList.contains (Char.ofNat 0) then .error .nulInName
  else if path = "" then .error .missing
  else if maxPathLength < path.utf8ByteSize then .error .nameTooLong
  else .ok (Path.parts path)

/-- Where a path starts: at the root, or in the directory that a program works in. -/
def origin (t : FileTree) (dir : Place) (path : String) : Trail :=
  if Path.isAbsolute path then [] else .toPlace t dir

variable (t : FileTree) (dir : Place)

/-- **The way along a path**, whether or not something lies at its end. -/
def resolve (path : String) : Except FileError Trail := do
  (← pathParts path).foldlM t.enter (t.origin dir path)

/-- **What a path leads to.** -/
def find (path : String) : Except FileError FileTree := do
  match (← t.resolve dir path).target t with
  | some found => return found
  | none => .error .missing

def has (path : String) : Bool := (t.find dir path).isOk

def hasDirectory (path : String) : Bool :=
  match t.find dir path with
  | .ok found => found.isDirectory
  | .error _ => false

def read (path : String) : Except FileError ByteArray := do
  match ← t.find dir path with
  | .file bytes => return bytes
  | .directory _ => .error .isDirectory

/-- **The tree with a file written**; the directory it lies in must be there. -/
def write (path : String) (bytes : ByteArray) : Except FileError FileTree := do
  let trail ← t.resolve dir path
  match trail.target t with
  | some (.directory _) => .error .isDirectory
  | _ => return t.set trail.place (.file bytes)

/-- Parts without the empty ones at their end. -/
def dropEmptyEnd (parts : List String) : List String :=
  (parts.reverse.dropWhile (· == "")).reverse

/-- **The tree with a new directory**; the one above it must be there. -/
def makeDirectory (path : String) : Except FileError FileTree := do
  let parts := dropEmptyEnd (← pathParts path)
  match parts.getLast? with
  | none => .error .alreadyExists
  | some last =>
    let above ← parts.dropLast.foldlM t.enter (t.origin dir path)
    let trail ← t.enter above last
    if last = "." ∨ last = ".." ∨ (trail.target t).isSome then .error .alreadyExists
    else return t.set trail.place empty

def names (path : String) : Except FileError (List String) := do
  match ← t.find dir path with
  | .directory children => return children.map (·.1)
  | .file _ => .error .notDirectory

end FileTree
end BenchSuite
