import Inlay.Template
import Inlay.Text.Blank
import Inlay.Text.ControlSequence
import Inlay.Text.Lines
import Inlay.Text.Quoted

namespace Inlay.CommandLine

inductive Parameter where
  | input
  | output
  | value
  | styleVariable
  | marker
  | strictStyles
  | denyFailures
  | log
  | help
  | version
  deriving DecidableEq, Repr

namespace Parameter

def label : Parameter → Text
  | input => "[INPUT]".toList
  | output => "--output <OUTPUT>".toList
  | value => "--set <KEY=VALUE>".toList
  | styleVariable => "--var <NAME=VALUE>".toList
  | marker => "--marker <MARKER>".toList
  | strictStyles => "--strict-styles".toList
  | denyFailures => "--deny-failures".toList
  | log => "--log <FILTER>".toList
  | help => "--help".toList
  | version => "--version".toList

def longNames : List (Text × Parameter) :=
  [("output".toList, output), ("set".toList, value), ("var".toList, styleVariable),
    ("marker".toList, marker), ("strict-styles".toList, strictStyles),
    ("deny-failures".toList, denyFailures), ("log".toList, log), ("help".toList, help),
    ("version".toList, version)]

def shortNames : List (Char × Parameter) :=
  [('o', output), ('h', help), ('V', version)]

def takesValue : Parameter → Bool
  | strictStyles => false
  | denyFailures => false
  | help => false
  | version => false
  | _ => true

end Parameter

structure Settings where
  input : Option Text := none
  output : Option Text := none
  values : List (Text × Text) := []
  styleVariables : List (Text × Text) := []
  marker : Option Text := none
  strictStyles : Bool := false
  denyFailures : Bool := false
  log : Option Text := none
  deriving DecidableEq, Repr, Inhabited

inductive PairError where
  | noEqualsSign
  | emptyKey
  deriving DecidableEq, Repr

/-- A key, without the blanks around it, and everything after the first `=`. -/
def readPair (text : Text) : Except PairError (Text × Text) :=
  match Text.splitFirst? '=' text with
  | none => .error .noEqualsSign
  | some (key, value) =>
      if (Text.trim key).isEmpty then .error .emptyKey else .ok (Text.trim key, value)

inductive UsageError where
  | invalidPair (parameter : Parameter) (value : Text) (error : PairError)
  | missingValue (parameter : Parameter)
  | unexpectedArgument (argument : Text)
  | unexpectedValue (parameter : Parameter) (value : Text)
  | repeated (parameter : Parameter)
  deriving DecidableEq, Repr

def PairError.message (value : Text) : PairError → Text
  | .noEqualsSign => "expected KEY=VALUE, got ".toList ++ Text.quoted value
  | .emptyKey => "empty key in ".toList ++ Text.quoted value

/-- What is wrong with a command line. The words of the command line are repeated without their
control sequences. -/
def UsageError.message : UsageError → Text
  | .invalidPair parameter value error =>
      "error: invalid value '".toList ++ Text.withoutControls value ++ "' for '".toList ++
        parameter.label ++ "': ".toList ++ error.message value
  | .missingValue parameter =>
      "error: a value is required for '".toList ++ parameter.label ++
        "' but none was supplied".toList
  | .unexpectedArgument argument =>
      "error: unexpected argument '".toList ++ Text.withoutControls argument ++
        "' found".toList
  | .unexpectedValue parameter value =>
      "error: unexpected value '".toList ++ Text.withoutControls value ++ "' for '".toList ++
        parameter.label ++ "' found; no more were expected".toList
  | .repeated parameter =>
      "error: the argument '".toList ++ parameter.label ++
        "' cannot be used multiple times".toList

/-- The first line of a message; a usage error takes no more. -/
def UsageError.line (error : UsageError) : Text :=
  (Text.lines error.message).headD []

/-- Why a command line asks for no run. -/
inductive Refusal where
  | usage (error : UsageError)
  | version
  | help
  deriving DecidableEq, Repr

def versionText : Text :=
  "hatet 0.1.0\n".toList

def helpText : Text :=
  ("Compile AAAD and AHT blocks in a document\n\n" ++
    "Usage: hatet [OPTIONS] [INPUT]\n\n" ++
    "Arguments:\n" ++
    "  [INPUT]  Input document; `-` or nothing reads stdin\n\n" ++
    "Options:\n" ++
    "  -o, --output <OUTPUT>   Output file; stdout when omitted\n" ++
    "      --set <KEY=VALUE>   Template value for elements marked with `template-value=KEY`\n" ++
    "      --var <NAME=VALUE>  Style variable emitted as `--NAME` on `:root`\n" ++
    "      --marker <MARKER>   Marker attribute naming template slots" ++
    " [default: template-value]\n" ++
    "      --strict-styles     Reject AAAD blocks with unbalanced `!`/`@` lines\n" ++
    "      --deny-failures     Exit with status 2 when any block fails to compile\n" ++
    "      --log <FILTER>      Log filter in `env_logger` syntax, overriding RUST_LOG\n" ++
    "  -h, --help              Print help\n" ++
    "  -V, --version           Print version\n").toList

namespace Settings

/-- Take a value for a parameter. Some parameters may come only once, and a path may not be
empty. -/
def give (settings : Settings) (parameter : Parameter) (given : Text) :
    Except UsageError Settings :=
  match parameter with
  | .input =>
      if given.isEmpty then .error (.missingValue .input)
      else .ok { settings with input := some given }
  | .output =>
      if settings.output.isSome then .error (.repeated .output)
      else if given.isEmpty then .error (.missingValue .output)
      else .ok { settings with output := some given }
  | .value =>
      match readPair given with
      | .ok pair => .ok { settings with values := settings.values ++ [pair] }
      | .error error => .error (.invalidPair .value given error)
  | .styleVariable =>
      match readPair given with
      | .ok pair => .ok { settings with styleVariables := settings.styleVariables ++ [pair] }
      | .error error => .error (.invalidPair .styleVariable given error)
  | .marker =>
      if settings.marker.isSome then .error (.repeated .marker)
      else .ok { settings with marker := some given }
  | .log =>
      if settings.log.isSome then .error (.repeated .log)
      else .ok { settings with log := some given }
  | _ => .ok settings

def turnOn (settings : Settings) : Parameter → Except Refusal Settings
  | .strictStyles =>
      if settings.strictStyles then .error (.usage (.repeated .strictStyles))
      else .ok { settings with strictStyles := true }
  | .denyFailures =>
      if settings.denyFailures then .error (.usage (.repeated .denyFailures))
      else .ok { settings with denyFailures := true }
  | .help => .error .help
  | .version => .error .version
  | _ => .ok settings

end Settings

end Inlay.CommandLine
