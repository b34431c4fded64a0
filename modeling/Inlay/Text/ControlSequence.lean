import Inlay.Text

/-!
Texts without control sequences, as they are written to a stream that is no terminal. Controls
are left out, except those that move on within or between lines, and so is every sequence from
its escape character to its end.

Such a control inside an escape or control sequence is written, and with it the text after it up
to the next control; there the sequence goes on, unless a character beyond ASCII has ended it.
-/

namespace Inlay.Text

/-- How far a sequence has come. An operating system command ends at a bell and a string at the
string terminator. A device control string has parameters and intermediate characters before its
content; other strings have content only. A semicolon divides parameters and a colon the parts of
one. -/
inductive Sequence where
  | outside
  | escape
  | escapeIntermediate
  | control
  | command
  | deviceEntry
  | deviceParameters
  | deviceIntermediate
  | string
  deriving DecidableEq, Repr

def isMotion (c : Char) : Bool :=
  c == '\t' || c == '\n' || c == '\x0c' || c == '\r'

/-- Whether a character is written when it stands outside of every sequence. -/
def isPlain (c : Char) : Bool :=
  isMotion c || (0x20 ≤ c.toNat && c.toNat != 0x7F)

def isBetween (first last c : Char) : Bool :=
  first.toNat ≤ c.toNat && c.toNat ≤ last.toNat

/-- The string terminator is the byte 9C, also within the UTF-8 form of another character. -/
def endsString (c : Char) : Bool :=
  (String.utf8EncodeChar c).contains 0x9C

namespace Sequence

def showsMotion : Sequence → Bool
  | outside => true
  | escape => true
  | escapeIntermediate => true
  | control => true
  | _ => false

def nextInEscape (c : Char) : Sequence :=
  if isBetween ' ' '/' c then escapeIntermediate
  else if c = '[' then control
  else if c = ']' then command
  else if c = 'P' then deviceEntry
  else if c = 'X' ∨ c = '^' ∨ c = '_' then string
  else if isBetween '0' '~' c then outside
  else escape

def nextInDevice (current : Sequence) (c : Char) : Sequence :=
  if isBetween ' ' '/' c then deviceIntermediate
  else if isBetween '0' '~' c then string
  else current

/-- How far a sequence is behind a character that is not written. -/
def next (sequence : Sequence) (c : Char) : Sequence :=
  if c = '\x1b' then escape
  else if c = '\x18' ∨ c = '\x1a' then outside
  else
    match sequence with
    | outside => outside
    | escape => nextInEscape c
    | escapeIntermediate => if isBetween '0' '~' c then outside else escapeIntermediate
    | control => if isBetween '@' '~' c then outside else control
    | command => if c = '\x07' then outside else command
    | deviceEntry =>
        if isBetween '0' '?' c then deviceParameters else nextInDevice deviceEntry c
    | deviceParameters =>
        if isBetween '0' ';' c then deviceParameters else nextInDevice deviceParameters c
    | deviceIntermediate => nextInDevice deviceIntermediate c
    | string => if endsString c then outside else string

end Sequence

/-- What is written of a text that begins within a sequence, which may be interrupted. -/
def writtenFrom (sequence : Sequence) (interrupted : Bool) : Text → Text
  | [] => []
  | c :: rest =>
      if (interrupted || sequence = .outside) && isPlain c then
        if c.toNat < 0x80 then c :: writtenFrom sequence interrupted rest
        else c :: writtenFrom .outside false rest
      else if isMotion c && sequence.showsMotion then
        c :: writtenFrom sequence true rest
      else
        writtenFrom (sequence.next c) false rest

def withoutControls (text : Text) : Text :=
  writtenFrom .outside false text

end Inlay.Text
