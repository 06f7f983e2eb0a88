import BenchSuite.Command
import BenchSuite.Text.Digits
/-!
# Reading a command line

Options come in a long form, `--name`, and some in a short form, `-n`.  The value of an option is the
next argument or is attached to it: `--name=value`, `-nvalue` and `-n=value` say the same.  Short options
without a value may share one argument.  A value that is not attached does not start with a hyphen,
unless it is a hyphen alone.  After `--` no argument is an option.  An option may be given once, apart
from the one that makes up a list.
-/
namespace BenchSuite

/-- An option of the command line. -/
structure CliOption where
  name : String
  short : Option Char
  takesValue : Bool
deriving DecidableEq, Repr

/-- A piece of a command line. -/
inductive CliItem where
  | flag (name : String)
  | value (name text : String)
  | word (text : String)
  /-- A piece that cannot be understood. -/
  | refused
deriving DecidableEq, Repr

/-- Whether an argument is a word and not an option. -/
def isWord (arg : List Char) : Bool := arg == ['-'] || arg.head? != some '-'

/-- An option whose value is the next argument, and the arguments left. -/
def takeValue (name : String) : List String → List CliItem × List String
  | v :: rest => if isWord v.toList then ([.value name v], rest) else ([.refused], rest)
  | [] => ([.refused], [])

/-- **Short options** that share an argument, and the arguments left. -/
def readShort (options : List CliOption) : List Char → List String → List CliItem × List String
  | [], rest => ([], rest)
  | c :: cs, rest =>
    match options.find? (·.short == some c) with
    | none => ([.refused], rest)
    | some o =>
      if o.takesValue then
        match cs with
        | [] => takeValue o.name rest
        | '=' :: v => ([.value o.name (String.ofList v)], rest)
        | v => ([.value o.name (String.ofList v)], rest)
      else
        let (items, rest) := readShort options cs rest
        (.flag o.name :: items, rest)

/-- **A long option** without its hyphens, and the arguments left. -/
def readLong (options : List CliOption) (arg : List Char) (rest : List String) :
    List CliItem × List String :=
  let name := String.ofList (arg.takeWhile (· != '='))
  match options.find? (·.name == name), arg.dropWhile (· != '=') with
  | none, _ => ([.refused], rest)
  | some o, [] => if o.takesValue then takeValue name rest else ([.flag name], rest)
  | some o, _ :: v => if o.takesValue then ([.value name (String.ofList v)], rest) else ([.refused], rest)

/-- **The items of an option argument**, and the arguments left. -/
def readOption (options : List CliOption) (arg : List Char) (rest : List String) :
    List CliItem × List String :=
  match arg with
  | '-' :: '-' :: long => readLong options long rest
  | _ => readShort options (arg.drop 1) rest

/-- **The items of a command line.** -/
def readItems (options : List CliOption) : Nat → List String → List CliItem
  | 0, _ => []
  | _, [] => []
  | fuel + 1, arg :: rest =>
    if arg = "--" then rest.map .word
    else if isWord arg.toList then .word arg :: readItems options fuel rest
    else
      let (items, rest) := readOption options arg.toList rest
      items ++ readItems options fuel rest

/-! ## Values -/

/-- The only value of an option, if it is given; it may not be given twice. -/
def single (name : String) (items : List CliItem) : Option (Option String) :=
  match items.filterMap fun | .value n v => if n = name then some v else none | _ => none with
  | [] => some none
  | [v] => some (some v)
  | _ => none

/-- Whether a flag is given; it may not be given twice. -/
def isSet (name : String) (items : List CliItem) : Option Bool :=
  match items.count (.flag name) with
  | 0 => some false
  | 1 => some true
  | _ => none

/-- All values of an option. -/
def valuesOf (name : String) (items : List CliItem) : List String :=
  items.filterMap fun | .value n v => if n = name then some v else none | _ => none

def wordsOf (items : List CliItem) : List String :=
  items.filterMap fun | .word w => some w | _ => none

/-- A path, which is not empty. -/
def pathValue (s : String) : Option String := if s = "" then none else some s

/-- **A count**: a number of 32 bits in decimal digits, perhaps with a sign. -/
def countValue (s : String) : Option UInt32 := do
  let n ← match s.toList with
    | '-' :: ds => do if (← Text.number? ds) = 0 then some 0 else none
    | '+' :: ds => Text.number? ds
    | ds => Text.number? ds
  if n < UInt32.size then some (UInt32.ofNat n) else none

/-! ## Commands -/

def runOptions : List CliOption := [⟨"warmup", some 'w', true⟩, ⟨"cycles", some 'c', true⟩]

def suiteOptions : List CliOption :=
  [⟨"only", none, true⟩, ⟨"output", some 'o', true⟩, ⟨"quick", none, false⟩]

/-- The command that a name and the arguments after it ask for. -/
def Command.ofArgs (name : String) (args : List String) : Option Command := do
  let options ← match name with
    | "run" => some runOptions
    | "suite" => some suiteOptions
    | "list" | "validate" => some []
    | _ => none
  let items := readItems options args.length args
  if items.contains .refused then none
  else match name, wordsOf items with
    | "run", [selector] =>
      return .run selector (← (← single "warmup" items).mapM countValue)
        (← (← single "cycles" items).mapM countValue)
    | "suite", [] =>
      return .suite (valuesOf "only" items) (← (← single "output" items).mapM pathValue)
        (← isSet "quick" items)
    | "list", [] => return .list
    | "validate", [file] => return .validate (← pathValue file)
    | _, _ => none

def globalOptions : List CliOption :=
  [⟨"config", some 'c', true⟩, ⟨"verbose", some 'v', false⟩, ⟨"version", some 'V', false⟩]

/-- The options before a command. -/
structure Globals where
  config : Option String
  verbose : Bool
deriving DecidableEq, Repr

/-- What comes of options before a command. -/
inductive GlobalStep where
  | more (globals : Globals)
  | version
  | refused

/-- **Options before a command taken one by one**: the first that asks for the version or cannot be
understood decides. -/
def Globals.take (g : Globals) : List CliItem → GlobalStep
  | [] => .more g
  | .value "config" path :: rest =>
    if g.config.isSome ∨ path = "" then .refused else take { g with config := some path } rest
  | .flag "verbose" :: rest => if g.verbose then .refused else take { g with verbose := true } rest
  | .flag "version" :: _ => .version
  | _ => .refused

namespace Request

/-- The request of a command line from a place on. -/
def ofArgsFrom (g : Globals) : Nat → List String → Option Request
  | 0, _ => none
  | _, [] => none
  | fuel + 1, arg :: rest =>
    if isWord arg.toList then (Command.ofArgs arg rest).map (.perform g.config g.verbose)
    else
      let (items, rest) := readOption globalOptions arg.toList rest
      match g.take items with
      | .more g => ofArgsFrom g fuel rest
      | .version => some .version
      | .refused => none

/-- **The request of a command line**, or none if it is not understood. -/
def ofArgs (args : List String) : Option Request := ofArgsFrom ⟨none, false⟩ args.length args

end Request
end BenchSuite
