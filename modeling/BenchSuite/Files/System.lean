import BenchSuite.Files.Error
import BenchSuite.Files.Path
/-!
# What a program needs of a file system

The operations on files, with what each may be refused for.  What they do is left open, so the same
program runs on a real disk and on a `FileTree`.
-/
namespace BenchSuite

/-- Operations on files and directories, each named by its path. -/
structure FileSystem (m : Type → Type) where
  /-- Whether there is a file or directory. -/
  has : String → m Bool
  /-- Whether there is a directory. -/
  hasDirectory : String → m Bool
  /-- The bytes of a file. -/
  read : String → m (Except FileError ByteArray)
  /-- A new file, or a new content of one that is there. -/
  write : String → String → m (Except FileError Unit)
  /-- A new directory in one that is there. -/
  makeDirectory : String → m (Except FileError Unit)
  /-- The names in a directory, in any order. -/
  names : String → m (Except FileError (List String))

namespace FileSystem

/-- **The text of a file.** -/
def readText [Monad m] (fs : FileSystem m) (path : String) : m (Except FileError String) := do
  match ← fs.read path with
  | .error e => return .error e
  | .ok bytes => return match String.fromUTF8? bytes with
    | some text => .ok text
    | none => .error .notText

/-- A refusal to make a directory is none where the directory is there already. -/
def unlessDirectory [Monad m] (fs : FileSystem m) (path : String) (e : FileError) : m (Except FileError Unit) := do
  if ← fs.hasDirectory path then return .ok () else return .error e

/-- Makes a directory and those above it, at most a number of them. -/
def makeWithin [Monad m] (fs : FileSystem m) : Nat → String → m (Except FileError Unit)
  | 0, _ => return .error .missing
  | fuel + 1, path => do
    if path = "" then return .ok ()
    match ← fs.makeDirectory path with
    | .ok () => return .ok ()
    | .error e =>
      if e ≠ .missing then fs.unlessDirectory path e
      else match Path.parent? path with
        | none => return .error e
        | some above =>
          match ← makeWithin fs fuel above with
          | .error e => return .error e
          | .ok () =>
            match ← fs.makeDirectory path with
            | .ok () => return .ok ()
            | .error e => fs.unlessDirectory path e

/-- **Makes a directory and those above it** that are not there yet. -/
def makeDirectories [Monad m] (fs : FileSystem m) (path : String) : m (Except FileError Unit) :=
  fs.makeWithin (path.length + 2) path

end FileSystem
end BenchSuite
