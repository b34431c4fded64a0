import Inlay.Html.Engine
import Inlay.Html.Standard.Reference

namespace Inlay.Html.Standard

def normalizeLineBreaks : Text → Text
  | [] => []
  | '\r' :: '\n' :: rest => '\n' :: normalizeLineBreaks rest
  | '\r' :: rest => '\n' :: normalizeLineBreaks rest
  | c :: rest => c :: normalizeLineBreaks rest

def dropByteOrderMark : Text → Text
  | '\uFEFF' :: rest => rest
  | text => text

def dropThrough (mark : Char) : Text → Text
  | [] => []
  | c :: rest => if c = mark then rest else dropThrough mark rest

inductive TagPlace where
  | tagName
  | beforeName
  | attributeName
  | afterName
  | beforeValue
  | doubleQuoted
  | singleQuoted
  | unquoted
  deriving DecidableEq, Repr

def isTagBlank (c : Char) : Bool :=
  c == '\t' || c == '\n' || c == '\x0c' || c == ' '

/-- The place after a character, or nothing if the character ends the tag. A slash between
attributes parts them as a blank does. -/
def TagPlace.next? : TagPlace → Char → Option TagPlace
  | .tagName, c =>
      if c = '>' then none
      else if isTagBlank c || c == '/' then some .beforeName
      else some .tagName
  | .beforeName, c =>
      if c = '>' then none
      else if isTagBlank c || c == '/' then some .beforeName
      else some .attributeName
  | .attributeName, c =>
      if c = '>' then none
      else if c = '/' then some .beforeName
      else if c = '=' then some .beforeValue
      else if isTagBlank c then some .afterName
      else some .attributeName
  | .afterName, c =>
      if c = '>' then none
      else if c = '/' then some .beforeName
      else if c = '=' then some .beforeValue
      else if isTagBlank c then some .afterName
      else some .attributeName
  | .beforeValue, c =>
      if c = '>' then none
      else if isTagBlank c then some .beforeValue
      else if c = '"' then some .doubleQuoted
      else if c = '\x27' then some .singleQuoted
      else some .unquoted
  | .doubleQuoted, c => if c = '"' then some .beforeName else some .doubleQuoted
  | .singleQuoted, c => if c = '\x27' then some .beforeName else some .singleQuoted
  | .unquoted, c =>
      if c = '>' then none
      else if isTagBlank c then some .beforeName
      else some .unquoted

/-- The text after the end of a tag; a tag that does not end takes everything. -/
def dropTag (place : TagPlace) : Text → Text
  | [] => []
  | c :: rest =>
      match place.next? c with
      | none => rest
      | some following => dropTag following rest

inductive CommentPlace where
  | start
  | startDash
  | inside
  | oneDash
  | twoDashes
  | bang
  deriving DecidableEq, Repr

/-- The place after a character, or nothing if the character ends the comment. -/
def CommentPlace.next? : CommentPlace → Char → Option CommentPlace
  | .start, c =>
      if c = '>' then none else if c = '-' then some .startDash else some .inside
  | .startDash, c =>
      if c = '>' then none else if c = '-' then some .twoDashes else some .inside
  | .inside, c => if c = '-' then some .oneDash else some .inside
  | .oneDash, c => if c = '-' then some .twoDashes else some .inside
  | .twoDashes, c =>
      if c = '>' then none
      else if c = '-' then some .twoDashes
      else if c = '!' then some .bang
      else some .inside
  | .bang, c =>
      if c = '>' then none else if c = '-' then some .oneDash else some .inside

def dropComment (place : CommentPlace) : Text → Text
  | [] => []
  | c :: rest =>
      match place.next? c with
      | none => rest
      | some following => dropComment following rest

/-- The text after the markup that a `<` begins, or nothing if that `<` is a plain character. -/
def dropMarkup? : Text → Option Text
  | [] => none
  | '!' :: '-' :: '-' :: rest => some (dropComment .start rest)
  | '!' :: rest => some (dropThrough '>' rest)
  | '?' :: rest => some (dropThrough '>' rest)
  | ['/'] => none
  | '/' :: c :: rest =>
      if c.isAlpha then some (dropTag .tagName rest) else some (dropThrough '>' (c :: rest))
  | c :: rest => if c.isAlpha then some (dropTag .tagName rest) else none

theorem length_dropThrough_le (mark : Char) (text : Text) :
    (dropThrough mark text).length ≤ text.length := by
  induction text with
  | nil => simp [dropThrough]
  | cons c rest ih =>
      simp only [dropThrough]
      split <;> simp only [List.length_cons] <;> omega

theorem length_dropTag_le (place : TagPlace) (text : Text) :
    (dropTag place text).length ≤ text.length := by
  induction text generalizing place with
  | nil => simp [dropTag]
  | cons c rest ih =>
      simp only [dropTag, List.length_cons]
      split
      · omega
      · rename_i following _
        have hrest := ih following
        omega

theorem length_dropComment_le (place : CommentPlace) (text : Text) :
    (dropComment place text).length ≤ text.length := by
  induction text generalizing place with
  | nil => simp [dropComment]
  | cons c rest ih =>
      simp only [dropComment, List.length_cons]
      split
      · omega
      · rename_i following _
        have hrest := ih following
        omega

theorem length_le_of_dropMarkup? {text rest : Text} (h : dropMarkup? text = some rest) :
    rest.length ≤ text.length := by
  unfold dropMarkup? at h
  split at h
  · cases h
  · rename_i tail
    cases h
    have htail := length_dropComment_le .start tail
    simp only [List.length_cons]
    omega
  · rename_i tail _
    cases h
    have htail := length_dropThrough_le '>' tail
    simp only [List.length_cons]
    omega
  · rename_i tail
    cases h
    have htail := length_dropThrough_le '>' tail
    simp only [List.length_cons]
    omega
  · cases h
  · rename_i c tail
    split at h
    · cases h
      have htail := length_dropTag_le .tagName tail
      simp only [List.length_cons]
      omega
    · cases h
      have htail := length_dropThrough_le '>' (c :: tail)
      simp only [List.length_cons] at htail ⊢
      omega
  · rename_i c tail _ _ _ _ _
    split at h
    · cases h
      have htail := length_dropTag_le .tagName tail
      simp only [List.length_cons]
      omega
    · cases h

def charToken (c : Char) : Token :=
  if c = '\x00' then .nullCharacter else .characters [c]

/-- The tokens of a text whose line breaks are line feeds. No tag changes how the text after it is
read. -/
def tokens (text : Text) : List Token :=
  match text with
  | [] => []
  | c :: rest =>
      if c = '<' then
        match _h : dropMarkup? rest with
        | none => charToken c :: tokens rest
        | some after => .other :: tokens after
      else if c = '&' then
        match _h : reference? rest with
        | none => charToken c :: tokens rest
        | some (characters, after) => .characters characters :: tokens after
      else
        charToken c :: tokens rest
termination_by text.length
decreasing_by
  · simp
  · have hafter := length_le_of_dropMarkup? _h
    simp only [List.length_cons]
    omega
  · simp
  · have hafter := length_le_of_reference? _h
    simp only [List.length_cons]
    omega
  · simp

@[simp] theorem tokens_nil : tokens [] = [] := by
  simp [tokens]

theorem tokens_cons {c : Char} (hmarkup : c ≠ '<') (hreference : c ≠ '&') (rest : Text) :
    tokens (c :: rest) = charToken c :: tokens rest := by
  rw [tokens]
  simp [hmarkup, hreference]

theorem tokens_reference {rest characters after : Text}
    (h : reference? rest = some (characters, after)) :
    tokens ('&' :: rest) = .characters characters :: tokens after := by
  rw [tokens]
  simp only [Char.reduceEq, if_false, if_true]
  split <;> simp_all

def tokenize : Tokenizer :=
  fun html => tokens (normalizeLineBreaks (dropByteOrderMark html))

end Inlay.Html.Standard
