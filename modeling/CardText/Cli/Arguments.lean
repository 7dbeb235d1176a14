import CardText.Unit

/-! The arguments of the command. -/
namespace CardText.Cli

def version : String := "0.1.0"

def defaultOut : String := "sets"

def help : String :=
  let defaults : Options := {}
  Emit.text [
    "cardgen " ++ version,
    "",
    "Compiles pokemontcg.io set datasets into card implementations.",
    "",
    "Usage:",
    "  cardgen [OPTIONS] [--] <dataset.json>...",
    "",
    "Options:",
    "  -o, --out <dir>               Output directory. One <set>/pokemon.rs is written",
    "                                per set. Default: " ++ defaultOut,
    "  --check                       Compile and report without writing anything.",
    "  --report                      Print the coverage report to stderr (default).",
    "  --no-report                   Do not print the coverage report.",
    "  --inline-limit <n>            Nested effects with at most <n> operations print",
    "                                on one line. Default: " ++ toString defaults.inlineLimit,
    "  --default-resistance <n>      Resistance amount used when the dataset value has",
    "                                no number. Default: " ++ toString defaults.defaultResistance,
    "  --color                       Force ANSI color output.",
    "  --no-color                    Disable ANSI color output.",
    "  -h, --help                    Show this help message.",
    "  -V, --version                 Print version information.",
    "",
    "Exit codes:",
    "  0  Success.",
    "  1  Malformed dataset (nothing is written) or I/O failure.",
    "  2  Invalid arguments or missing input."]

inductive ArgumentError where
  | missingValue (option : String)
  | badNumber (option value : String)
  | unknownOption (argument : String)
  | noDataset
  deriving DecidableEq, Repr

def ArgumentError.message : ArgumentError → String
  | missingValue option => "error: " ++ option ++ " expects a value"
  | badNumber option value =>
      "error: invalid " ++ option ++ " '" ++ value ++ "' (expected a non-negative integer)"
  | unknownOption argument => "error: unknown option '" ++ argument ++ "'"
  | noDataset => "error: no dataset provided\n\n" ++ help

structure Config where
  inputs : List String
  out : String
  options : Options
  check : Bool
  report : Bool
  color : Bool
  deriving DecidableEq, Repr

inductive Request where
  | help
  | version
  | run (config : Config)
  deriving DecidableEq, Repr

def initial (color : Bool) : Config := ⟨[], defaultOut, {}, false, true, color⟩

inductive Valued where
  | out | inlineLimit | defaultResistance
  deriving DecidableEq, Repr

namespace Valued

def all : List Valued := [out, inlineLimit, defaultResistance]

def option : Valued → String
  | out => "--out"
  | inlineLimit => "--inline-limit"
  | defaultResistance => "--default-resistance"

def ofArgument? (argument : String) : Option Valued :=
  if argument == "-o" then some out else all.find? (·.option == argument)

end Valued

/-- Decimal digits, with or without a plus sign. -/
def number? (limit : Nat) (value : String) : Option Nat :=
  let digits := match value.toList with
    | '+' :: rest => rest
    | chars => chars
  if digits.isEmpty || !digits.all Char.isDigit then none
  else if Text.decimalValue digits ≤ limit then some (Text.decimalValue digits)
  else none

def largestLimit : Nat := 18446744073709551615

def setValue (config : Config) (valued : Valued) (value : String) : Except ArgumentError Config :=
  match valued with
  | .out => .ok { config with out := value }
  | .inlineLimit =>
      match number? largestLimit value with
      | some n => .ok { config with options := { config.options with inlineLimit := n } }
      | none => .error (.badNumber valued.option value)
  | .defaultResistance =>
      match number? Text.largestAmount value with
      | some n => .ok { config with options := { config.options with defaultResistance := n } }
      | none => .error (.badNumber valued.option value)

/-- Drops the opening as often as it stands there; the counter bounds how often. -/
def dropRepeated (opening : List Char) : Nat → List Char → List Char
  | 0, text => text
  | n + 1, text =>
      match opening.isPrefixOf? text with
      | some rest => dropRepeated opening n rest
      | none => text

/-- The value of an argument that names its option too. -/
def assigned? (argument : String) : Option (Valued × String) :=
  Valued.all.findSome? fun valued =>
    let opening := (valued.option ++ "=").toList
    let text := argument.toList
    if opening.isPrefixOf text then
      some (valued, String.ofList (dropRepeated opening text.length text))
    else none

def flag? (config : Config) : String → Option Config
  | "--color" => some { config with color := true }
  | "--no-color" => some { config with color := false }
  | "--check" => some { config with check := true }
  | "--report" => some { config with report := true }
  | "--no-report" => some { config with report := false }
  | _ => none

def addInputs (config : Config) (inputs : List String) : Config :=
  { config with inputs := config.inputs ++ inputs }

def finish (config : Config) : Except ArgumentError Request :=
  if config.inputs.isEmpty then .error .noDataset else .ok (.run config)

/-- From left to right: a request for help ends it, whatever stands after it. -/
def parseFrom (config : Config) : List String → Except ArgumentError Request
  | [] => finish config
  | argument :: rest =>
      if argument == "-h" || argument == "--help" then .ok .help
      else if argument == "-V" || argument == "--version" then .ok .version
      else if argument == "--" then finish (addInputs config rest)
      else
        match flag? config argument, Valued.ofArgument? argument, assigned? argument with
        | some config, _, _ => parseFrom config rest
        | none, some valued, _ =>
            match rest with
            | [] => .error (.missingValue valued.option)
            | value :: rest =>
                match setValue config valued value with
                | .ok config => parseFrom config rest
                | .error error => .error error
        | none, none, some (valued, value) =>
            match setValue config valued value with
            | .ok config => parseFrom config rest
            | .error error => .error error
        | none, none, none =>
            if argument.startsWith "-" then .error (.unknownOption argument)
            else parseFrom (addInputs config [argument]) rest

def parse (color : Bool) (arguments : List String) : Except ArgumentError Request :=
  parseFrom (initial color) arguments

end CardText.Cli
