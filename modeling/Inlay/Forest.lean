import Inlay.Attributes

namespace Inlay

/-- A finite sequence of nodes. The constructors list the first node and then the nodes after it, so
one induction reaches every node at every depth. -/
inductive Forest where
  | nil
  | text (content : Text) (rest : Forest)
  | element (tag : Text) (attributes : Attributes) (children rest : Forest)
  deriving DecidableEq, Repr, Inhabited

namespace Forest

def append : Forest → Forest → Forest
  | nil, back => back
  | text content rest, back => text content (rest.append back)
  | element tag attributes children rest, back =>
      element tag attributes children (rest.append back)

instance : Append Forest := ⟨Forest.append⟩

@[simp] theorem nil_append (back : Forest) : nil ++ back = back := rfl

@[simp] theorem text_append (content : Text) (rest back : Forest) :
    text content rest ++ back = text content (rest ++ back) := rfl

@[simp] theorem element_append (tag : Text) (attributes : Attributes)
    (children rest back : Forest) :
    element tag attributes children rest ++ back =
      element tag attributes children (rest ++ back) := rfl

@[simp] theorem append_nil (forest : Forest) : forest ++ nil = forest := by
  induction forest with
  | nil => rfl
  | text content rest ih => simp [ih]
  | element tag attributes children rest _ ih => simp [ih]

theorem append_assoc (first second third : Forest) :
    first ++ second ++ third = first ++ (second ++ third) := by
  induction first with
  | nil => rfl
  | text content rest ih => simp [ih]
  | element tag attributes children rest _ ih => simp [ih]

/-- A text as a forest: one node, or none when there is nothing to show. -/
def ofText : Text → Forest
  | [] => nil
  | content@(_ :: _) => text content nil

@[simp] theorem ofText_nil : ofText [] = nil := rfl

@[simp] theorem ofText_cons (c : Char) (rest : Text) :
    ofText (c :: rest) = text (c :: rest) nil := rfl

def size : Forest → Nat
  | nil => 0
  | text _ rest => rest.size + 1
  | element _ _ _ rest => rest.size + 1

def textContent : Forest → Text
  | nil => []
  | text content rest => content ++ rest.textContent
  | element _ _ children rest => children.textContent ++ rest.textContent

def topTags : Forest → List Text
  | nil => []
  | text _ rest => rest.topTags
  | element tag _ _ rest => tag :: rest.topTags

/-- The tags of all elements, each before those of its descendants. -/
def tags : Forest → List Text
  | nil => []
  | text _ rest => rest.tags
  | element tag _ children rest => tag :: children.tags ++ rest.tags

structure Root where
  tag : Text
  attributes : Attributes
  children : Forest
  deriving DecidableEq, Repr

/-- The element with one attribute written, over the value that its name has so far. -/
def Root.withAttribute (root : Root) (name value : Text) : Root :=
  { root with attributes := root.attributes.insert name value }

def roots : Forest → List Root
  | nil => []
  | text _ rest => rest.roots
  | element tag attributes children rest => ⟨tag, attributes, children⟩ :: rest.roots

end Forest

end Inlay
