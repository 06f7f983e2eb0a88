/-!
# What a file system refuses
-/
namespace BenchSuite

/-- Why an operation on a file was refused. -/
inductive FileError where
  /-- The operating system refused it, with its code and its words. -/
  | system (code : Nat) (text : String)
  /-- No file has such a name. -/
  | nulInName
  /-- The bytes of the file are no text. -/
  | notText
deriving DecidableEq, Repr

namespace FileError

def missing : FileError := .system 2 "No such file or directory"

def alreadyExists : FileError := .system 17 "File exists"

def notDirectory : FileError := .system 20 "Not a directory"

def isDirectory : FileError := .system 21 "Is a directory"

def nameTooLong : FileError := .system 36 "File name too long"

def message : FileError → String
  | system code text => text ++ " (os error " ++ toString code ++ ")"
  | nulInName => "file name contained an unexpected NUL byte"
  | notText => "stream did not contain valid UTF-8"

end FileError
end BenchSuite
