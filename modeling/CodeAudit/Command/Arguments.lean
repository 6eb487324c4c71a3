/-!
Command lines. An argument is an option, the value of the option before it, or a plain argument; an
option is settled when the next argument that is not its value comes, or at the end.
-/

namespace CodeAudit

inductive UsageError where
  | help
  | version
  | nothingAsked
  | missingCommand
  | missingPath
  | unknownCommand
  | unknownArgument
  | missingValue
  | invalidNumber
  | repeated
  | unexpectedValue
deriving DecidableEq, Repr

/-- Help and version are answers; everything else is a failure. -/
def UsageError.exitCode : UsageError → Nat
  | help => 0
  | version => 0
  | _ => 2

def UsageError.message : UsageError → String
  | help => "Usage: sourcelint [OPTIONS] <COMMAND>, where the command is scan, rules or help"
  | version => "sourcelint 0.1.0"
  | nothingAsked => "error: no command was given"
  | missingCommand => "error: the options need a command behind them"
  | missingPath => "error: a path to scan is required"
  | unknownCommand => "error: unrecognized command"
  | unknownArgument => "error: unexpected argument"
  | missingValue => "error: an option needs a value"
  | invalidNumber => "error: an option needs an unsigned integer"
  | repeated => "error: an option cannot be used more than once"
  | unexpectedValue => "error: an option takes no value"

structure ScanArguments where
  path : String
  config : Option String := none
  format : String := "pretty"
  noDuplication : Bool := false
  minUnitLines : Option Nat := none
  minBlockTokens : Option Nat := none
  parallel : Bool := false
  failOnFault : Bool := false
deriving DecidableEq, Repr

inductive Command where
  | scan (arguments : ScanArguments)
  | rules (config : Option String)
deriving DecidableEq, Repr

namespace Arguments

inductive Role where
  | help
  | version
  | flag
  | counter
  | text
  | path
  | number
deriving DecidableEq, Repr

def Role.takesValue : Role → Bool
  | text | path | number => true
  | _ => false

structure Choice where
  long : String
  short : Option Char
  role : Role
deriving DecidableEq, Repr

def helpChoice : Choice := ⟨"help", some 'h', .help⟩
def versionChoice : Choice := ⟨"version", some 'V', .version⟩
def verboseChoice : Choice := ⟨"verbose", some 'v', .counter⟩
def configChoice : Choice := ⟨"config", some 'c', .path⟩
def pathChoice : Choice := ⟨"", none, .path⟩

def generalChoices : List Choice :=
  [verboseChoice, helpChoice, versionChoice]

def scanChoices : List Choice :=
  [verboseChoice, helpChoice, configChoice, ⟨"format", some 'f', .text⟩,
    ⟨"no-duplication", none, .flag⟩, ⟨"min-unit-lines", none, .number⟩,
    ⟨"min-block-tokens", none, .number⟩, ⟨"parallel", none, .flag⟩,
    ⟨"fail-on-fault", none, .flag⟩]

def rulesChoices : List Choice :=
  [verboseChoice, helpChoice, configChoice]

/-- A decimal number of at most 64 bits, possibly with a plus sign. -/
def number? (text : String) : Option Nat :=
  let digits := if text.toList.head? == some '+' then text.toList.drop 1 else text.toList
  if digits.isEmpty || !digits.all Char.isDigit then
    none
  else
    some (digits.foldl (fun value digit => 10 * value + (digit.toNat - '0'.toNat)) 0)
      |>.filter (· < 0x10000000000000000)

/-- The settled options with their values, and the option that is not settled yet, with its value
if that has come. -/
structure Reading where
  settled : List (String × String)
  pending : Option (Choice × Option String)

namespace Reading

def start : Reading := ⟨[], none⟩

def get? (reading : Reading) (name : String) : Option String :=
  reading.settled.lookup name

def has (reading : Reading) (name : String) : Bool :=
  (reading.get? name).isSome

/-- Settles an option; all but counters may be given once. -/
def accept (reading : Reading) (choice : Choice) (value : String) : Except UsageError Reading :=
  let settled := { reading with settled := (choice.long, value) :: reading.settled }
  match choice.role with
  | .help => .error .help
  | .version => .error .version
  | .counter => .ok settled
  | .flag | .text => if reading.has choice.long then .error .repeated else .ok settled
  | .path =>
      if reading.has choice.long then .error .repeated
      else if value.isEmpty then .error .missingValue
      else .ok settled
  | .number =>
      if reading.has choice.long then .error .repeated
      else if (number? value).isNone then .error .invalidNumber
      else .ok settled

def settle (reading : Reading) : Except UsageError Reading :=
  match reading.pending with
  | none => .ok reading
  | some (_, none) => .error .missingValue
  | some (choice, some value) => { reading with pending := none }.accept choice value

def take (reading : Reading) (choice : Choice) : Except UsageError Reading := do
  let reading ← reading.settle
  if choice.role.takesValue then
    return { reading with pending := some (choice, none) }
  else
    reading.accept choice ""

def takeAttached (reading : Reading) (choice : Choice) (value : String) :
    Except UsageError Reading := do
  (← reading.settle).accept choice value

def long (choices : List Choice) (reading : Reading) (text : List Char) :
    Except UsageError Reading :=
  let name := String.ofList (text.takeWhile (· != '='))
  match choices.find? (fun choice => choice.long == name), text.dropWhile (· != '=') with
  | none, _ => .error .unknownArgument
  | some choice, [] => reading.take choice
  | some choice, _ :: value =>
      if choice.role.takesValue then reading.takeAttached choice (String.ofList value)
      else .error .unexpectedValue

/-- Takes options written as letters, of which the last may have its value attached. -/
def short (choices : List Choice) (reading : Reading) : List Char → Except UsageError Reading
  | [] => .ok reading
  | letter :: rest =>
      match choices.find? fun choice => choice.short == some letter with
      | none => .error .unknownArgument
      | some choice =>
          if choice.role.takesValue then
            match rest with
            | [] => reading.take choice
            | '=' :: value => reading.takeAttached choice (String.ofList value)
            | value => reading.takeAttached choice (String.ofList value)
          else do
            short choices (← reading.take choice) rest

def option (choices : List Choice) (reading : Reading) (text : List Char) :
    Except UsageError Reading :=
  match text with
  | '-' :: '-' :: rest => long choices reading rest
  | _ :: rest => short choices reading rest
  | [] => .ok reading

end Reading

def isOption (argument : String) : Bool :=
  argument.toList.head? == some '-' && argument != "-"

/-- Reads the arguments of a command with at most the given number of plain ones. Behind two
hyphens every argument is plain. -/
def readAll (choices : List Choice) (allowed : Nat) (onlyPlain : Bool) (reading : Reading) :
    List String → Except UsageError Reading
  | [] => reading.settle
  | argument :: rest =>
      if !onlyPlain && argument == "--" then
        readAll choices allowed true reading rest
      else if !onlyPlain && isOption argument then do
        readAll choices allowed onlyPlain (← reading.option choices argument.toList) rest
      else
        match reading.pending, onlyPlain with
        | some (choice, none), false =>
            readAll choices allowed onlyPlain
              { reading with pending := some (choice, some argument) } rest
        | _, _ =>
            match allowed with
            | 0 => .error .unknownArgument
            | allowed + 1 => do
                let reading ← reading.settle
                readAll choices allowed onlyPlain
                  { reading with pending := some (pathChoice, some argument) } rest

def readScan (arguments : List String) : Except UsageError Command := do
  let reading ← readAll scanChoices 1 false .start arguments
  match reading.get? pathChoice.long with
  | none => throw .missingPath
  | some path =>
      return .scan {
        path
        config := reading.get? "config"
        format := (reading.get? "format").getD "pretty"
        noDuplication := reading.has "no-duplication"
        minUnitLines := (reading.get? "min-unit-lines").bind number?
        minBlockTokens := (reading.get? "min-block-tokens").bind number?
        parallel := reading.has "parallel"
        failOnFault := reading.has "fail-on-fault" }

def readRules (arguments : List String) : Except UsageError Command := do
  let reading ← readAll rulesChoices 0 false .start arguments
  return .rules (reading.get? "config")

def commandNames : List String :=
  ["scan", "check", "rules", "help"]

def readHelp : List String → UsageError
  | [] => .help
  | [name] => if commandNames.contains name then .help else .unknownCommand
  | _ => .unknownCommand

def readCommand (onlyPlain : Bool) (reading : Reading) : List String → Except UsageError Command
  | [] => .error (if reading.settled.isEmpty then .nothingAsked else .missingCommand)
  | argument :: rest =>
      if onlyPlain then
        .error (if commandNames.contains argument then .unknownArgument else .unknownCommand)
      else
        match argument with
        | "scan" | "check" => readScan rest
        | "rules" => readRules rest
        | "help" => .error (readHelp rest)
        | "--" => readCommand true reading rest
        | _ =>
            if isOption argument then do
              readCommand false (← reading.option generalChoices argument.toList) rest
            else
              .error .unknownCommand

end Arguments

def Command.ofArguments (arguments : List String) : Except UsageError Command :=
  Arguments.readCommand false .start arguments

end CodeAudit
