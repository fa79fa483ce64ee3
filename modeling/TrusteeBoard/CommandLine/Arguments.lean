/-!
# Command line arguments

`Invocation.ofArguments?` reads the options of the program, the name of a command and the options of
that command. Every option takes a value, after an equals sign or as the next argument, and is given
at most once. Options of the program that are not given may be set as environment variables.
-/

namespace TrusteeBoard.CommandLine

/-- What the program is asked to do. -/
inductive Command where
  /-- Print what the store holds. -/
  | status
  /-- Check the integrity of the store. -/
  | check
  /-- Resolve the tally of a file. Without a tie policy that of the settings is used. -/
  | resolve (tallyFile : String) (seats divisor : UInt32) (tiePolicy : Option String)
  /-- Print the default settings file. -/
  | defaultConfig
  deriving DecidableEq, Repr

/-- A command, with what is to replace the settings. -/
structure Invocation where
  settingsFile : Option String
  dataDir : Option String
  logLevel : Option String
  logFormat : Option String
  command : Command
  deriving DecidableEq, Repr

/-! ### Options -/

/-- Options with their values. -/
abbrev Options : Type := List (String × String)

def Options.value? (options : Options) (name : String) : Option String :=
  List.lookup name options

/-- An option with what follows its equals sign, if there is one. -/
def longOption? (arg : String) : Option (String × Option String) :=
  match arg.toList with
  | '-' :: '-' :: c :: cs =>
    let text := c :: cs
    let name := String.ofList (text.takeWhile (· ≠ '='))
    match text.dropWhile (· ≠ '=') with
    | [] => some (name, none)
    | _ :: value => some (name, some (String.ofList value))
  | _ => none

/-- Whether an argument can be the value of the option before it. -/
def isValue (arg : String) : Bool :=
  arg = "-" || arg.toList.head? ≠ some '-'

/-- The options at the front, and the arguments from the first on that is no option. -/
def splitOptions (known : List String) : List String → Option (Options × List String)
  | [] => some ([], [])
  | arg :: rest =>
    match longOption? arg with
    | none => some ([], arg :: rest)
    | some (name, some value) => do
      if !known.contains name then none
      else
        let (options, rest) ← splitOptions known rest
        return ((name, value) :: options, rest)
    | some (name, none) =>
      match rest with
      | [] => none
      | value :: rest => do
        if !known.contains name || !isValue value then none
        else
          let (options, rest) ← splitOptions known rest
          return ((name, value) :: options, rest)

/-- The options at the front, none of them given twice. -/
def readOptions (known : List String) (args : List String) : Option (Options × List String) := do
  let (options, rest) ← splitOptions known args
  if (options.map (·.1)).Nodup then return (options, rest) else none

/-! ### Values -/

/-- A path, which is not empty. -/
def readPath (value : String) : Option String :=
  if value = "" then none else some value

/-- The digits of a number, without a sign in front, and whether that is a minus. -/
def unsigned (value : String) : Bool × List Char :=
  match value.toList with
  | '-' :: digits => (true, digits)
  | '+' :: digits => (false, digits)
  | digits => (false, digits)

/-- A number in decimal digits that fits 32 bits. It may have a sign. -/
def readWord (value : String) : Option UInt32 :=
  let (negative, digits) := unsigned value
  let n := Nat.ofDigitChars 10 digits 0
  if digits.isEmpty || !digits.all Char.isDigit then none
  else if n = 0 || (!negative && n < 0x100000000) then some (UInt32.ofNat n)
  else none

/-- The value of an option that may be left out. -/
def optional {α : Type} (read : String → Option α) (value : Option String) : Option (Option α) :=
  match value with
  | none => some none
  | some value => some <$> read value

/-! ### Invocations -/

/-- The divisor of the quorum where none is given. -/
def defaultDivisor : UInt32 := 5

/-- A command with its own arguments. Two dashes may end them. -/
def Command.ofArguments? (name : String) (args : List String) : Option Command := do
  let known := if name = "resolve" then ["tally", "seats", "divisor", "tie-policy"] else []
  let (options, rest) ← readOptions known args
  if rest ≠ [] ∧ rest ≠ ["--"] then none
  else
    match name with
    | "status" => return .status
    | "check" => return .check
    | "resolve" =>
      return .resolve
        (← options.value? "tally" >>= readPath)
        (← options.value? "seats" >>= readWord)
        ((← optional readWord (options.value? "divisor")).getD defaultDivisor)
        (options.value? "tie-policy")
    | "default-config" => return .defaultConfig
    | _ => none

/-- The options of the program, each with the variable that stands in for it. -/
def programOptions : Options :=
  [ ("config", "TFGOV_CONFIG"), ("data-dir", "TFGOV_DATA_DIR"), ("log-level", "TFGOV_LOG_LEVEL"),
    ("log-format", "TFGOV_LOG_FORMAT") ]

/-- The variable with a log filter that goes before the one of the settings. -/
def filterVariable : String := "RUST_LOG"

/-- All variables that a run looks at. -/
def readVariables : List String :=
  filterVariable :: programOptions.map (·.2)

/-- The invocation of a command line in an environment. -/
def Invocation.ofArguments? (environment : Options) (args : List String) : Option Invocation := do
  let (options, rest) ← readOptions (programOptions.map (·.1)) args
  let value (name : String) : Option String :=
    options.value? name <|> (programOptions.value? name >>= environment.value?)
  match rest with
  | [] => none
  | name :: args =>
    return {
      settingsFile := ← optional readPath (value "config")
      dataDir := ← optional readPath (value "data-dir")
      logLevel := value "log-level"
      logFormat := value "log-format"
      command := ← Command.ofArguments? name args }

end TrusteeBoard.CommandLine
