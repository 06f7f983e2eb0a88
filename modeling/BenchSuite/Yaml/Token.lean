/-!
# Tokens of YAML

The words of a YAML text.  Indentation is spelled out: where a line is indented further than the block
around it a start token is put, and where it is indented less an end token for each block it leaves.
-/
namespace BenchSuite.Yaml

/-- How a scalar is written. -/
inductive ScalarForm where
  | plain
  | singleQuoted
  | doubleQuoted
  | literal
  | folded
deriving DecidableEq, Repr

/-- A word of a YAML text. -/
inductive Token where
  | version (major minor : Nat)
  /-- A handle, and what it stands for in tags. -/
  | handle (name expansion : String)
  | documentStart
  | documentEnd
  | blockSequenceStart
  | blockMappingStart
  | blockEnd
  | flowSequenceStart
  | flowSequenceEnd
  | flowMappingStart
  | flowMappingEnd
  | blockEntry
  | flowEntry
  | key
  | value
  | alias (name : String)
  | anchor (name : String)
  /-- A tag; the handle is empty where the whole tag is written out. -/
  | tag (handle suffix : String)
  | scalar (form : ScalarForm) (text : String)
deriving DecidableEq, Repr

end BenchSuite.Yaml
