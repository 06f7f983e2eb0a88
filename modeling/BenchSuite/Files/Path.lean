/-!
# Paths

A path is a text whose parts are set apart by slashes.  It is kept as it was written, since it is shown
to people; only the questions asked of it look at its parts.
-/
namespace BenchSuite.Path

/-- A list cut at a separator. -/
def cut (separator : Char) : List Char → List (List Char)
  | [] => [[]]
  | c :: rest =>
    if c = separator then [] :: cut separator rest
    else match cut separator rest with
      | [] => [[c]]
      | part :: parts => (c :: part) :: parts

/-- **The parts of a path** as written, empty ones included. -/
def parts (path : String) : List String := (cut '/' path.toList).map String.ofList

/-- Whether a path starts at the root. -/
def isAbsolute (path : String) : Bool := path.toList.head? == some '/'

/-- **The path of something in a directory.** -/
def join (dir name : String) : String :=
  if dir = "" ∨ dir.toList.getLast? = some '/' then dir ++ name else dir ++ "/" ++ name

/-- The parts that lead somewhere: empty ones do not, and a point only at the start. -/
def steps (path : String) : List String :=
  match parts path with
  | [] => []
  | "." :: rest => "." :: rest.filter fun p => p != "" && p != "."
  | all => all.filter fun p => p != "" && p != "."

/-- **The path without its last step**; a path without steps has no such. -/
def parent? (path : String) : Option String :=
  match steps path with
  | [] => none
  | all => some ((if isAbsolute path then "/" else "") ++ "/".intercalate all.dropLast)

end BenchSuite.Path
