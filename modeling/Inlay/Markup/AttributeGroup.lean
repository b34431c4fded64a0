import Inlay.Attributes
import Inlay.Log.Record
import Inlay.Text.Blank

namespace Inlay.Markup

inductive Place where
  | name
  | valueStart
  | quoted
  | unquoted
  deriving DecidableEq, Repr

/-- What a character does to the segment it stands in. -/
inductive Move where
  | stay (place : Place)
  | cut
  | finish
  deriving DecidableEq, Repr

/-- A double quote opens a quoted value only as the first character after `=` that is not blank. -/
def Place.move : Place → Char → Move
  | .quoted, c => if c = '"' then .stay .unquoted else .stay .quoted
  | place, c =>
      if c = ')' then .finish
      else if c = ',' then .cut
      else
        match place with
        | .name => if c = '=' then .stay .valueStart else .stay .name
        | .valueStart =>
            if c = '"' then .stay .quoted
            else if Text.isBlank c then .stay .valueStart
            else .stay .unquoted
        | _ => .stay .unquoted

theorem Place.eq_of_move_finish {place : Place} {c : Char} (h : place.move c = .finish) :
    c = ')' := by
  unfold Place.move at h
  split at h
  · split at h <;> cases h
  · split at h
    · assumption
    · repeat' split at h
      all_goals cases h

theorem Place.eq_of_move_cut {place : Place} {c : Char} (h : place.move c = .cut) :
    c = ',' := by
  unfold Place.move at h
  split at h
  · split at h <;> cases h
  · split at h
    · cases h
    · split at h
      · assumption
      · repeat' split at h
        all_goals cases h

namespace AttributeGroup

/-- The segments of a group that goes on with a text, up to its `)` or to the end of the text. -/
def segmentsFrom (place : Place) : Text → List Text
  | [] => [[]]
  | c :: rest =>
      match place.move c with
      | .finish => [[]]
      | .cut => [] :: segmentsFrom .name rest
      | .stay next => Text.prepend c (segmentsFrom next rest)

/-- The text after the `)` of a group, if the group is closed. -/
def restFrom? (place : Place) : Text → Option Text
  | [] => none
  | c :: rest =>
      match place.move c with
      | .finish => some rest
      | .cut => restFrom? .name rest
      | .stay next => restFrom? next rest

def segments (text : Text) : List Text :=
  segmentsFrom .name text

def rest? (text : Text) : Option Text :=
  restFrom? .name text

theorem length_lt_of_restFrom? {place : Place} {text rest : Text}
    (h : restFrom? place text = some rest) : rest.length < text.length := by
  induction text generalizing place with
  | nil => cases h
  | cons c text ih =>
      simp only [restFrom?] at h
      split at h
      · cases h
        simp
      · have hrest := ih h
        simp only [List.length_cons]
        omega
      · have hrest := ih h
        simp only [List.length_cons]
        omega

theorem segmentsFrom_ne_nil (place : Place) (text : Text) : segmentsFrom place text ≠ [] := by
  cases text with
  | nil => simp [segmentsFrom]
  | cons c rest =>
      simp only [segmentsFrom]
      split
      · simp
      · simp
      · rename_i next _
        cases segmentsFrom next rest <;> simp

def segmentsSize : List Text → Nat
  | [] => 0
  | raw :: rest => Text.utf8Size raw + 1 + segmentsSize rest

theorem segmentsSize_prepend (c : Char) {segments : List Text} (h : segments ≠ []) :
    segmentsSize (Text.prepend c segments) = c.utf8Size + segmentsSize segments := by
  cases segments with
  | nil => exact absurd rfl h
  | cons first others =>
      simp only [Text.prepend_cons, segmentsSize, Text.utf8Size_cons]
      omega

theorem utf8Size_of_restFrom? {place : Place} {text rest : Text}
    (h : restFrom? place text = some rest) :
    Text.utf8Size text = segmentsSize (segmentsFrom place text) + Text.utf8Size rest := by
  induction text generalizing place with
  | nil => cases h
  | cons c text ih =>
      simp only [restFrom?] at h
      simp only [segmentsFrom]
      split at h
      · rename_i hmove
        cases h
        have hmark : ')'.utf8Size = 1 := rfl
        simp only [Place.eq_of_move_finish hmove, segmentsSize, Text.utf8Size_cons,
          Text.utf8Size_nil]
        omega
      · rename_i hmove
        have hmark : ','.utf8Size = 1 := rfl
        simp only [Place.eq_of_move_cut hmove, segmentsSize, Text.utf8Size_cons,
          Text.utf8Size_nil, ih h]
        omega
      · rename_i next hmove
        simp only [Text.utf8Size_cons, ih h,
          segmentsSize_prepend c (segmentsFrom_ne_nil next text)]
        omega

end AttributeGroup

/-- Take one pair of double quotes off a value that has them at both ends. -/
def unquote (value : Text) : Text :=
  match value with
  | '"' :: rest => if rest.getLast? = some '"' then rest.dropLast else value
  | _ => value

inductive Segment where
  | blank
  | withoutValue (content : Text)
  | withoutName
  | pair (name value : Text)
  deriving DecidableEq, Repr

namespace Segment

def read (raw : Text) : Segment :=
  if (Text.trim raw).isEmpty then
    blank
  else
    match Text.splitFirst? '=' raw with
    | none => withoutValue (Text.trim raw)
    | some (name, value) =>
        if (Text.trim name).isEmpty then withoutName
        else pair (Text.trim name) (unquote (Text.trim value))

def toPair? : Segment → Option (Text × Text)
  | pair name value => some (name, value)
  | _ => none

def records (offset : Nat) : Segment → List Log.Record
  | withoutValue content => [.attributeWithoutValue offset content]
  | withoutName => [.attributeWithoutName offset]
  | _ => []

end Segment

def attributesOf (segments : List Text) : Attributes :=
  Attributes.ofList (segments.filterMap (fun raw => (Segment.read raw).toPair?))

def segmentRecords (offset : Nat) : List Text → List Log.Record
  | [] => []
  | raw :: rest =>
      (Segment.read raw).records offset ++
        segmentRecords (offset + Text.utf8Size raw + 1) rest

/-- The attributes of a group whose text is given without its opening parenthesis. -/
def parseAttributes (text : Text) : Attributes :=
  attributesOf (AttributeGroup.segments text)

def attributeRecords (text : Text) (base : Nat) : List Log.Record :=
  segmentRecords base (AttributeGroup.segments text)

end Inlay.Markup
