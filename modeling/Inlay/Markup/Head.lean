import Inlay.Markup.AttributeGroup

namespace Inlay.Markup

def isNameChar (c : Char) : Bool :=
  c.isAlphanum || c == '_'

/-- The opening of a head and the text after it. Without a group there are no segments; a group
has at least one. -/
structure Opening where
  name : Text
  segments : List Text
  after : Text
  deriving DecidableEq, Repr

namespace Opening

/-- The opening with which a text begins. A group that is not closed opens no head. -/
def read? : Text → Option Opening
  | '@' :: rest =>
      let name := rest.takeWhile isNameChar
      if name.isEmpty then
        none
      else
        match rest.dropWhile isNameChar with
        | '(' :: inside =>
            (AttributeGroup.rest? inside).map fun after =>
              ⟨name, AttributeGroup.segments inside, after⟩
        | after => some ⟨name, [], after⟩
  | _ => none

def size (opening : Opening) : Nat :=
  1 + Text.utf8Size opening.name +
    if opening.segments.isEmpty then 0
    else 1 + AttributeGroup.segmentsSize opening.segments

def records (opening : Opening) (offset : Nat) : List Log.Record :=
  segmentRecords (offset + Text.utf8Size opening.name + 2) opening.segments

/-- The text behind the `{` that follows an opening, and the number of bytes before it. -/
def body? (opening : Opening) : Option (Nat × Text) :=
  let blanks := opening.after.takeWhile Text.isBlank
  match opening.after.dropWhile Text.isBlank with
  | '{' :: body => some (opening.size + Text.utf8Size blanks + 1, body)
  | _ => none

theorem utf8Size_of_read? {text : Text} {opening : Opening} (h : read? text = some opening) :
    Text.utf8Size text = opening.size + Text.utf8Size opening.after := by
  unfold read? at h
  split at h
  · rename_i rest
    have hname := congrArg Text.utf8Size (List.takeWhile_append_dropWhile
      (p := isNameChar) (l := rest))
    rw [Text.utf8Size_append] at hname
    have hmark : '@'.utf8Size = 1 := rfl
    simp only at h
    split at h
    · cases h
    · split at h
      · rename_i inside hinside
        obtain ⟨after, hafter, hopening⟩ := Option.map_eq_some_iff.mp h
        subst hopening
        have hgroup := AttributeGroup.utf8Size_of_restFrom? hafter
        have hsegments := AttributeGroup.segmentsFrom_ne_nil .name inside
        rw [hinside, Text.utf8Size_cons] at hname
        have hparenthesis : '('.utf8Size = 1 := rfl
        simp only [size, AttributeGroup.segments, List.isEmpty_iff, hsegments, if_false,
          Text.utf8Size_cons]
        omega
      · cases h
        simp only [size, List.isEmpty_nil, if_true, Text.utf8Size_cons]
        omega
  · cases h

theorem utf8Size_of_body? {opening : Opening} {size : Nat} {body : Text}
    (h : opening.body? = some (size, body)) :
    opening.size + Text.utf8Size opening.after = size + Text.utf8Size body := by
  have hafter := congrArg Text.utf8Size (List.takeWhile_append_dropWhile
    (p := Text.isBlank) (l := opening.after))
  rw [Text.utf8Size_append] at hafter
  simp only [body?] at h
  split at h
  · rename_i rest hrest
    obtain ⟨rfl, rfl⟩ := Prod.mk.inj (Option.some.inj h)
    rw [hrest, Text.utf8Size_cons] at hafter
    have hbrace : '{'.utf8Size = 1 := rfl
    omega
  · cases h

theorem length_after_lt_of_read? {text : Text} {opening : Opening}
    (h : read? text = some opening) : opening.after.length < text.length := by
  unfold read? at h
  split at h
  · rename_i rest
    have hdrop := (List.dropWhile_sublist (l := rest) isNameChar).length_le
    simp only at h
    split at h
    · cases h
    · split at h
      · rename_i inside hinside
        obtain ⟨after, hafter, hopening⟩ := Option.map_eq_some_iff.mp h
        subst hopening
        have hgroup := AttributeGroup.length_lt_of_restFrom? hafter
        rw [hinside] at hdrop
        simp only [List.length_cons] at hdrop ⊢
        omega
      · cases h
        simp only [List.length_cons]
        omega
  · cases h

theorem length_lt_of_body? {opening : Opening} {size : Nat} {body : Text}
    (h : opening.body? = some (size, body)) : body.length < opening.after.length := by
  have hdrop := (List.dropWhile_sublist (l := opening.after) Text.isBlank).length_le
  simp only [body?] at h
  split at h
  · rename_i rest hrest
    obtain ⟨rfl, rfl⟩ := Prod.mk.inj (Option.some.inj h)
    rw [hrest] at hdrop
    simp only [List.length_cons] at hdrop
    omega
  · cases h

end Opening

/-- A head and the number of bytes from its `@` to its `{`, both included. -/
structure Head where
  name : Text
  attributes : Attributes
  size : Nat
  deriving DecidableEq, Repr

namespace Head

/-- The head with a given opening, and the text after its `{`. -/
def complete? (opening : Opening) : Option (Head × Text) :=
  opening.body?.map fun (size, body) => (⟨opening.name, attributesOf opening.segments, size⟩, body)

/-- The head with which a text begins, and the text after its `{`. -/
def scan? (text : Text) : Option (Head × Text) :=
  (Opening.read? text).bind complete?

def records (offset : Nat) (text : Text) : List Log.Record :=
  match Opening.read? text with
  | some opening => opening.records offset
  | none => []

theorem utf8Size_of_scan? {head : Head} {text body : Text} (h : scan? text = some (head, body)) :
    Text.utf8Size text = head.size + Text.utf8Size body := by
  obtain ⟨opening, hopening, hhead⟩ := Option.bind_eq_some_iff.mp h
  obtain ⟨⟨size, rest⟩, hbody, hpair⟩ := Option.map_eq_some_iff.mp hhead
  obtain ⟨rfl, rfl⟩ := Prod.mk.inj hpair
  rw [Opening.utf8Size_of_read? hopening, Opening.utf8Size_of_body? hbody]

theorem length_lt_of_complete? {opening : Opening} {head : Head} {body : Text}
    (h : complete? opening = some (head, body)) : body.length < opening.after.length := by
  obtain ⟨⟨size, rest⟩, hbody, hpair⟩ := Option.map_eq_some_iff.mp h
  obtain ⟨rfl, rfl⟩ := Prod.mk.inj hpair
  exact Opening.length_lt_of_body? hbody

end Head

end Inlay.Markup
