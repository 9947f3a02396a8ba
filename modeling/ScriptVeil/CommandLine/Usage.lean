import ScriptVeil.Text.Terminal

namespace ScriptVeil.CommandLine

inductive Parameter where
  | input
  | output
  | seed
  | strategy
deriving DecidableEq, Repr

inductive Flag where
  | verbose
  | help
deriving DecidableEq, Repr

def Parameter.shown : Parameter → String
  | .input => "<INPUT>"
  | .output => "--output <OUTPUT>"
  | .seed => "--seed <SEED>"
  | .strategy => "--strategy <STRATEGY>"

def Flag.shown : Flag → String
  | .verbose => "--verbose..."
  | .help => "--help"

def Parameter.ofLong? (name : Text) : Option Parameter :=
  if name = "output".toList then some .output
  else if name = "seed".toList then some .seed
  else if name = "strategy".toList then some .strategy
  else none

def Flag.ofLong? (name : Text) : Option Flag :=
  if name = "verbose".toList then some .verbose
  else if name = "help".toList then some .help
  else none

inductive SeedFault where
  | empty
  | badDigit
  | tooLarge
deriving DecidableEq, Repr

def SeedFault.message : SeedFault → String
  | .empty => "cannot parse integer from empty string"
  | .badDigit => "invalid digit found in string"
  | .tooLarge => "number too large to fit in target type"

inductive UsageError where
  | inputMissing
  | unexpectedArgument (arg : Text)
  | valueMissing (parameter : Parameter)
  | badSeed (value : Text) (fault : SeedFault)
  | badStrategy (value : Text)
  | repeated (parameter : Parameter)
  | unexpectedValue (value : Text) (flag : Flag)
deriving DecidableEq, Repr

/-- The first line of a message, which is all of it that is kept. -/
def firstLine (t : Text) : Text :=
  t.takeWhile (· ≠ '\n')

/-- An argument in a message, in quotes and without escape sequences. -/
def quotedArgument (arg : Text) : Text :=
  '\x27' :: arg.withoutEscapes ++ ['\x27']

def UsageError.message (e : UsageError) : Text :=
  firstLine ("error: ".toList ++ match e with
    | .inputMissing => "the following required arguments were not provided:".toList
    | .unexpectedArgument arg =>
      "unexpected argument ".toList ++ quotedArgument arg ++ " found".toList
    | .valueMissing parameter =>
      "a value is required for '".toList ++ parameter.shown.toList
        ++ "' but none was supplied".toList
    | .badSeed value fault =>
      "invalid value ".toList ++ quotedArgument value ++ " for '".toList
        ++ Parameter.seed.shown.toList ++ "': ".toList ++ fault.message.toList
    | .badStrategy value =>
      "invalid value ".toList ++ quotedArgument value ++ " for '".toList
        ++ Parameter.strategy.shown.toList ++ "'".toList
    | .repeated parameter =>
      "the argument '".toList ++ parameter.shown.toList
        ++ "' cannot be used multiple times".toList
    | .unexpectedValue value flag =>
      "unexpected value ".toList ++ quotedArgument value ++ " for '".toList ++ flag.shown.toList
        ++ "' found; no more were expected".toList)

def linesText (lines : List String) : Text :=
  lines.flatMap fun l => l.toList ++ ['\n']

def shortHelp : Text :=
  linesText
    ["JavaScript/JScript obfuscator",
     "",
     "Usage: jsmask [OPTIONS] <INPUT>",
     "",
     "Arguments:",
     "  <INPUT>  Script to obfuscate",
     "",
     "Options:",
     "  -o, --output <OUTPUT>      Write to this file instead of stdout",
     "      --seed <SEED>          Seed for token generation (reproducible output)",
     "      --strategy <STRATEGY>  How substitutions are located in the source "
       ++ "[default: textual] [possible values: textual, ranged]",
     "  -v, --verbose...           Log more to stderr (repeatable)",
     "  -h, --help                 Print help (see more with '--help')"]

def longHelp : Text :=
  linesText
    ["JavaScript/JScript obfuscator",
     "",
     "Usage: jsmask [OPTIONS] <INPUT>",
     "",
     "Arguments:",
     "  <INPUT>",
     "          Script to obfuscate",
     "",
     "Options:",
     "  -o, --output <OUTPUT>",
     "          Write to this file instead of stdout",
     "",
     "      --seed <SEED>",
     "          Seed for token generation (reproducible output)",
     "",
     "      --strategy <STRATEGY>",
     "          How substitutions are located in the source",
     "",
     "          Possible values:",
     "          - textual: Whole-word substitution over the text",
     "          - ranged:  Substitution at syntax tree positions",
     "          ",
     "          [default: textual]",
     "",
     "  -v, --verbose...",
     "          Log more to stderr (repeatable)",
     "",
     "  -h, --help",
     "          Print help (see a summary with '-h')"]

end ScriptVeil.CommandLine
