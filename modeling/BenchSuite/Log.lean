/-!
# Log records

What a run tells about itself while it goes on: a level, a message, and named values.
-/
namespace BenchSuite

inductive LogLevel where
  | trace
  | debug
  | info
  | warn
  | error
deriving DecidableEq, Repr

/-- A value in a log record. -/
inductive LogValue where
  | text (s : String)
  | number (n : Nat)
  | real (x : Float)
deriving BEq, Repr

/-- One record of a log. -/
structure LogRecord where
  level : LogLevel
  message : String
  fields : List (String × LogValue)
deriving BEq, Repr

end BenchSuite
