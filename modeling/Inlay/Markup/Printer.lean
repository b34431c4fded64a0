import Inlay.Forest

namespace Inlay

def Attributes.toAht (attributes : Attributes) : Text :=
  if attributes.isEmpty then
    []
  else
    '(' ::
      List.intercalate [','] (attributes.entries.map (fun entry =>
        entry.1 ++ ['=', '"'] ++ entry.2 ++ ['"'])) ++ [')']

namespace Forest

def toAhtBefore : Forest → Text → Text
  | nil, back => back
  | text content rest, back => content ++ rest.toAhtBefore back
  | element tag attributes children rest, back =>
      '@' :: (tag ++ (attributes.toAht ++
        '{' :: children.toAhtBefore ('}' :: rest.toAhtBefore back)))

def toAht (forest : Forest) : Text :=
  forest.toAhtBefore []

theorem toAhtBefore_eq (forest : Forest) (back : Text) :
    forest.toAhtBefore back = forest.toAht ++ back := by
  suffices h : ∀ middle back, forest.toAhtBefore (middle ++ back) =
      forest.toAhtBefore middle ++ back by
    exact h [] back
  induction forest with
  | nil => simp [toAhtBefore]
  | text content rest ih => simp [toAhtBefore, ih]
  | element tag attributes children rest ihChildren ihRest =>
      intro middle back
      have hbody := ihChildren ('}' :: rest.toAhtBefore middle) back
      simp only [List.cons_append] at hbody
      simp [toAhtBefore, ihRest, hbody]

@[simp] theorem toAht_nil : nil.toAht = [] := rfl

@[simp] theorem toAht_text (content : Text) (rest : Forest) :
    (text content rest).toAht = content ++ rest.toAht := rfl

@[simp] theorem toAht_element (tag : Text) (attributes : Attributes)
    (children rest : Forest) :
    (element tag attributes children rest).toAht =
      '@' :: (tag ++ (attributes.toAht ++ '{' :: (children.toAht ++ '}' :: rest.toAht))) := by
  rw [toAht, toAhtBefore, toAhtBefore_eq children]
  rfl

theorem toAht_append (front back : Forest) :
    (front ++ back).toAht = front.toAht ++ back.toAht := by
  induction front with
  | nil => rfl
  | text content rest ih => simp [ih]
  | element tag attributes children rest _ ih => simp [ih]

end Forest

end Inlay
