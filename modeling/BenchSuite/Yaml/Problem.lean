/-!
# What can be wrong with a YAML text

One cause for every way in which a text is no YAML document, or a document is not of the wanted shape.
-/
namespace BenchSuite.Yaml

inductive Problem where
  | forbiddenCharacter
  /-- No token starts with this character. -/
  | strayCharacter
  /-- A tab stands where only blanks may indent. -/
  | tabIndentation
  /-- What had to be a key has no colon after it. -/
  | keyWithoutValue
  /-- An entry, key or value stands where a line has already begun otherwise. -/
  | misplacedIndicator
  | badDirective
  | badAnchor
  | badTag
  | badBlockHeader
  | badEscape
  | unclosedQuote
  | strayColon
  /-- The tokens do not make up one document. -/
  | badStructure
  | unknownHandle
  | unknownAnchor
  /-- A value is not of the kind that its place asks for. -/
  | wrongKind (expected : String)
  | unknownField (name : String)
  | repeatedField (name : String)
  | missingField (name : String)
deriving DecidableEq, Repr

def Problem.message : Problem → String
  | forbiddenCharacter => "control characters are not allowed"
  | strayCharacter => "found character that cannot start any token"
  | tabIndentation => "found a tab where blanks are expected"
  | keyWithoutValue => "could not find expected ':'"
  | misplacedIndicator => "entries and mapping values are not allowed in this context"
  | badDirective => "malformed directive"
  | badAnchor => "malformed anchor or alias"
  | badTag => "malformed tag"
  | badBlockHeader => "malformed block scalar header"
  | badEscape => "malformed escape in a quoted scalar"
  | unclosedQuote => "found unexpected end of a quoted scalar"
  | strayColon => "found unexpected ':'"
  | badStructure => "did not find expected node content"
  | unknownHandle => "found undefined tag handle"
  | unknownAnchor => "unknown anchor"
  | wrongKind expected => "invalid type: expected " ++ expected
  | unknownField name => "unknown field " ++ name
  | repeatedField name => "duplicate field " ++ name
  | missingField name => "missing field " ++ name

/-- A value, or what prevents it. -/
abbrev Read := Except Problem

end BenchSuite.Yaml
