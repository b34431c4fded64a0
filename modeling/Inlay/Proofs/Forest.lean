import Inlay.Markup.Printer

namespace Inlay.Forest

/-! Texts that stand side by side. Two forests have the same shape on paper when one comes from the
other by dropping empty texts and joining neighbours; a merged forest has neither. -/

/-- A text in front of a forest, joined with the text that the forest begins with, if any. -/
def joinText (content : Text) : Forest → Forest
  | text next rest => text (content ++ next) rest
  | rest => ofText content ++ rest

/-- A forest without empty texts, in which neighbouring texts are joined, at every level. -/
def normal : Forest → Forest
  | nil => nil
  | text content rest => joinText content rest.normal
  | element tag attributes children rest =>
      element tag attributes children.normal rest.normal

def beginsWithText : Forest → Bool
  | text _ _ => true
  | _ => false

def Merged : Forest → Prop
  | nil => True
  | text content rest => content ≠ [] ∧ rest.beginsWithText = false ∧ rest.Merged
  | element _ _ children rest => children.Merged ∧ rest.Merged

def texts : Forest → List Text
  | nil => []
  | text content rest => content :: rest.texts
  | element _ _ children rest => children.texts ++ rest.texts

def elements : Forest → List Root
  | nil => []
  | text _ rest => rest.elements
  | element tag attributes children rest =>
      ⟨tag, attributes, children⟩ :: (children.elements ++ rest.elements)

@[simp] theorem joinText_nil (content : Text) : joinText content nil = ofText content :=
  append_nil _

@[simp] theorem joinText_text (content next : Text) (rest : Forest) :
    joinText content (text next rest) = text (content ++ next) rest := rfl

@[simp] theorem joinText_element (content tag : Text) (attributes : Attributes)
    (children rest : Forest) :
    joinText content (element tag attributes children rest) =
      ofText content ++ element tag attributes children rest := rfl

@[simp] theorem joinText_empty (forest : Forest) : joinText [] forest = forest := by
  cases forest with
  | nil => rfl
  | text next rest => rfl
  | element tag attributes children rest => rfl

theorem joinText_ofText (front back : Text) :
    joinText front (ofText back) = ofText (front ++ back) := by
  cases back with
  | nil => simp
  | cons c back => cases front <;> rfl

theorem joinText_append (front back : Text) (forest : Forest) :
    joinText (front ++ back) forest = joinText front (joinText back forest) := by
  cases forest with
  | nil => rw [joinText_nil, joinText_nil, joinText_ofText]
  | text next rest => simp
  | element tag attributes children rest =>
      cases back with
      | nil => simp
      | cons c back => cases front <;> rfl

theorem joinText_ofText_append (front back : Text) (tag : Text) (attributes : Attributes)
    (children rest : Forest) :
    joinText front (ofText back ++ element tag attributes children rest) =
      ofText (front ++ back) ++ element tag attributes children rest := by
  rw [← joinText_element, ← joinText_element, joinText_append]

theorem joinText_of_merged {content : Text} {rest : Forest} (h : (text content rest).Merged) :
    joinText content rest = text content rest := by
  obtain ⟨hcontent, hrest, -⟩ := h
  obtain ⟨c, content, rfl⟩ := List.exists_cons_of_ne_nil hcontent
  cases rest with
  | nil => rfl
  | text next rest => cases hrest
  | element tag attributes children rest => rfl

theorem Merged.ofText (content : Text) : (ofText content).Merged := by
  cases content with
  | nil => trivial
  | cons c content => exact ⟨by simp, rfl, trivial⟩

theorem Merged.joinText {forest : Forest} (h : forest.Merged) (content : Text) :
    (joinText content forest).Merged := by
  cases forest with
  | nil =>
      rw [joinText_nil]
      exact Merged.ofText content
  | text next rest =>
      obtain ⟨hnext, hrest⟩ := h
      exact ⟨by simp [hnext], hrest⟩
  | element tag attributes children rest =>
      cases content with
      | nil => exact h
      | cons c content => exact ⟨by simp, rfl, h⟩

theorem merged_normal (forest : Forest) : forest.normal.Merged := by
  induction forest with
  | nil => trivial
  | text content rest ih => exact ih.joinText content
  | element tag attributes children rest ihChildren ihRest => exact ⟨ihChildren, ihRest⟩

theorem toAht_ofText (content : Text) : (ofText content).toAht = content := by
  cases content with
  | nil => rfl
  | cons c content => simp

theorem toAht_joinText (content : Text) (forest : Forest) :
    (joinText content forest).toAht = content ++ forest.toAht := by
  cases forest with
  | nil => simp [toAht_ofText]
  | text next rest => simp
  | element tag attributes children rest => rw [joinText_element, toAht_append, toAht_ofText]

theorem toAht_normal (forest : Forest) : forest.normal.toAht = forest.toAht := by
  induction forest with
  | nil => rfl
  | text content rest ih => rw [normal, toAht_joinText, ih, toAht_text]
  | element tag attributes children rest ihChildren ihRest => simp [normal, ihChildren, ihRest]

end Inlay.Forest
