import Inlay.Dialect
import Inlay.Text.ControlSequence
import Inlay.Text.Quoted

namespace Inlay.Log

inductive Level where
  | error
  | warn
  | info
  | debug
  | trace
  deriving DecidableEq, Repr, Inhabited

namespace Level

def name : Level → Text
  | error => "ERROR".toList
  | warn => "WARN".toList
  | info => "INFO".toList
  | debug => "DEBUG".toList
  | trace => "TRACE".toList

def verbosity : Level → Nat
  | error => 1
  | warn => 2
  | info => 3
  | debug => 4
  | trace => 5

end Level

inductive Record where
  | openedTag (tag : Text) (offset : Nat)
  | attributeWithoutValue (offset : Nat) (segment : Text)
  | attributeWithoutName (offset : Nat)
  | unclosedBlockTag (dialect : Dialect) (offset : Nat)
  | replacementDropped (index : Nat)
  | compilingBlock (dialect : Dialect) (index size : Nat)
  | blockLeftUntouched (dialect : Dialect) (index : Nat) (error : CompileError)
  | transpiled (stylesheets markup failed : Nat)
  | loggingStarted (filter : Text)
  | blocksFound (count : Nat)
  | slotsFilled (count : Nat)
  | runFailed (cause : Text)
  deriving DecidableEq, Repr

namespace Record

def level : Record → Level
  | openedTag .. => .trace
  | attributeWithoutValue .. => .debug
  | attributeWithoutName .. => .debug
  | unclosedBlockTag .. => .warn
  | replacementDropped .. => .warn
  | compilingBlock .. => .debug
  | blockLeftUntouched .. => .warn
  | transpiled .. => .info
  | loggingStarted .. => .debug
  | blocksFound .. => .debug
  | slotsFilled .. => .info
  | runFailed .. => .error

def target : Record → Text
  | openedTag .. => "hatet_markup::parser".toList
  | attributeWithoutValue .. => "hatet_markup::lexer".toList
  | attributeWithoutName .. => "hatet_markup::lexer".toList
  | unclosedBlockTag .. => "hatet_engine::document".toList
  | replacementDropped .. => "hatet_engine::document".toList
  | compilingBlock .. => "hatet_engine::driver".toList
  | blockLeftUntouched .. => "hatet_engine::driver".toList
  | transpiled .. => "hatet_engine::driver".toList
  | loggingStarted .. => "hatet_engine::logging::init".toList
  | blocksFound .. => "hatet".toList
  | slotsFilled .. => "hatet".toList
  | runFailed .. => "hatet".toList

def message : Record → Text
  | openedTag tag offset =>
      "open @".toList ++ tag ++ " at ".toList ++ Text.ofNat offset
  | attributeWithoutValue offset segment =>
      "malformed attribute at offset ".toList ++ Text.ofNat offset ++ ": ".toList ++
        Text.quoted segment
  | attributeWithoutName offset =>
      "malformed attribute at offset ".toList ++ Text.ofNat offset ++ ": empty name".toList
  | unclosedBlockTag dialect offset =>
      "<".toList ++ dialect.name ++ "> at byte ".toList ++ Text.ofNat offset ++
        " has no closing tag; kept as text".toList
  | replacementDropped index =>
      "no block at BlockId(".toList ++ Text.ofNat index ++ "); replacement dropped".toList
  | compilingBlock dialect index size =>
      "compiling ".toList ++ dialect.name ++ " block #".toList ++ Text.ofNat index ++
        " (".toList ++ Text.ofNat size ++ " bytes)".toList
  | blockLeftUntouched dialect index error =>
      dialect.name ++ " block #".toList ++ Text.ofNat index ++ " left untouched: ".toList ++
        error.message
  | transpiled stylesheets markup failed =>
      "transpiled ".toList ++ Text.ofNat stylesheets ++ " stylesheet and ".toList ++
        Text.ofNat markup ++ " markup block(s), ".toList ++ Text.ofNat failed ++ " failed".toList
  | loggingStarted filter =>
      "logging to stderr with filter ".toList ++ Text.quoted filter
  | blocksFound count =>
      "found ".toList ++ Text.ofNat count ++ " block(s)".toList
  | slotsFilled count =>
      "filled ".toList ++ Text.ofNat count ++ " template slot(s)".toList
  | runFailed cause => cause

/-- A record as it is laid out: level and target in brackets, then the message, whose later lines
are set in by four spaces. -/
def layout (record : Record) : Text :=
  let level := record.level.name
  '[' :: level ++ List.replicate (5 - level.length) ' ' ++ ' ' :: record.target ++
    "] ".toList ++ List.intercalate "\n    ".toList (Text.splitOn '\n' record.message) ++ ['\n']

/-- A record as it is written. A control sequence in the message that does not end takes the rest
of the line, its end included. -/
def line (record : Record) : Text :=
  Text.withoutControls record.layout

end Record

end Inlay.Log
