import Inlay.Document
import Inlay.Html.TextContent
import Inlay.Log.Record
import Inlay.Text.Blank
import Inlay.Text.Search

namespace Inlay

/-- The dialect whose blocks have a given tag name, whatever the case of its letters. -/
def Dialect.named? (name : Text) : Option Dialect :=
  Dialect.all.find? (fun dialect => Text.lower dialect.name == Text.lower name)

def Dialect.closingTag (dialect : Dialect) : Text :=
  ['<', '/'] ++ Text.lower dialect.name ++ ['>']

namespace Document

structure OpeningTag where
  dialect : Dialect
  spelling : Text
  after : Text
  deriving DecidableEq, Repr

def endsTagName : Text → Bool
  | [] => false
  | c :: _ => c == '>' || Text.isHtmlBlank c

/-- The opening tag of a block with which a text begins. The tag ends at its first `>`. -/
def openingTag? : Text → Option OpeningTag
  | '<' :: rest => do
      let name := rest.takeWhile Char.isAlphanum
      let tail := rest.dropWhile Char.isAlphanum
      let dialect ← Dialect.named? name
      guard (endsTagName tail)
      let (inside, after) ← Text.splitFirst? '>' tail
      return ⟨dialect, '<' :: name ++ inside ++ ['>'], after⟩
  | _ => none

/-- What a text begins with: a block and the text after it, an opening tag of a block that is
never closed, or neither. -/
inductive Reading where
  | plain
  | unclosed (dialect : Dialect)
  | block (slot : Slot) (after : Text)
  deriving DecidableEq, Repr

def read (tokenize : Html.Tokenizer) (text : Text) : Reading :=
  match openingTag? text with
  | none => .plain
  | some tag =>
      match Text.findFold? tag.dialect.closingTag tag.after with
      | none => .unclosed tag.dialect
      | some hit =>
          .block
            { dialect := tag.dialect
              raw := tag.spelling ++ hit.before ++ hit.found
              source := Html.textContent tokenize hit.before }
            hit.after

/-- The parts of a text: single characters, which may stand where a block is opened and never
closed, and whole blocks. -/
inductive Piece where
  | plain (c : Char)
  | unclosed (dialect : Dialect) (c : Char)
  | block (slot : Slot)
  deriving DecidableEq, Repr

theorem length_after_openingTag? {text : Text} {tag : OpeningTag}
    (h : openingTag? text = some tag) : tag.after.length < text.length := by
  unfold openingTag? at h
  split at h
  · rename_i rest
    have hdrop := (List.dropWhile_sublist (l := rest) Char.isAlphanum).length_le
    obtain ⟨dialect, _, h⟩ := Option.bind_eq_some_iff.mp h
    obtain ⟨_, _, h⟩ := Option.bind_eq_some_iff.mp h
    obtain ⟨⟨inside, after⟩, hsplit, h⟩ := Option.bind_eq_some_iff.mp h
    cases h
    have hafter := Text.length_lt_of_splitFirst? hsplit
    simp only [List.length_cons]
    omega
  · cases h

section

variable {tokenize : Html.Tokenizer}

theorem length_after_read {text after : Text} {slot : Slot}
    (h : read tokenize text = .block slot after) : after.length < text.length := by
  unfold read at h
  split at h
  · cases h
  · rename_i tag htag
    split at h
    · cases h
    · rename_i hit hhit
      cases h
      have htail := length_after_openingTag? htag
      have hafter := Text.length_after_le_of_findFold? hhit
      omega

def pieces (tokenize : Html.Tokenizer) (text : Text) : List Piece :=
  match text with
  | [] => []
  | c :: rest =>
      match _h : read tokenize (c :: rest) with
      | .plain => .plain c :: pieces tokenize rest
      | .unclosed dialect => .unclosed dialect c :: pieces tokenize rest
      | .block slot after => .block slot :: pieces tokenize after
termination_by text.length
decreasing_by
  · simp
  · simp
  · exact length_after_read _h

@[simp] theorem pieces_nil : pieces tokenize [] = [] := by
  simp [pieces]

theorem pieces_of_block {c : Char} {rest after : Text} {slot : Slot}
    (h : read tokenize (c :: rest) = .block slot after) :
    pieces tokenize (c :: rest) = .block slot :: pieces tokenize after := by
  rw [pieces]
  split <;> simp_all

end

/-- Put a plain character in front of segments, into the first of them if that is plain. -/
def prependPlain (c : Char) : List Segment → List Segment
  | .plain content :: rest => .plain (c :: content) :: rest
  | segments => .plain [c] :: segments

def segmentsOf : List Piece → List Segment
  | [] => []
  | .plain c :: rest => prependPlain c (segmentsOf rest)
  | .unclosed _ c :: rest => prependPlain c (segmentsOf rest)
  | .block slot :: rest => .block slot :: segmentsOf rest

def parse (tokenize : Html.Tokenizer) (text : Text) : Document :=
  { segments := segmentsOf (pieces tokenize text) }

def recordsOf (offset : Nat) : List Piece → List Log.Record
  | [] => []
  | .plain c :: rest => recordsOf (offset + c.utf8Size) rest
  | .unclosed dialect c :: rest =>
      .unclosedBlockTag dialect offset :: recordsOf (offset + c.utf8Size) rest
  | .block slot :: rest => recordsOf (offset + Text.utf8Size slot.raw) rest

def parseRecords (tokenize : Html.Tokenizer) (text : Text) : List Log.Record :=
  recordsOf 0 (pieces tokenize text)

end Document

end Inlay
