import Inlay.Html.Escape

namespace Inlay.Html

namespace Node

variable {α β γ : Type}

mutual

def map (f : α → β) : Node α → Node β
  | .text contents => .text (f contents)
  | .element name attributes children => .element name attributes (mapAll f children)

def mapAll (f : α → β) : List (Node α) → List (Node β)
  | [] => []
  | node :: rest => map f node :: mapAll f rest

end

def shape (node : Node α) : Node Unit :=
  node.map fun _ => ()

mutual

/-- The texts of a tree in document order, each with the name of the element directly around it. -/
def texts (parent : Option Name) : Node α → List (Option Name × α)
  | .text contents => [(parent, contents)]
  | .element name _ children => textsAll (some name) children

def textsAll (parent : Option Name) : List (Node α) → List (Option Name × α)
  | [] => []
  | node :: rest => texts parent node ++ textsAll parent rest

end

mutual

theorem map_map (g : β → γ) (f : α → β) (node : Node α) :
    (node.map f).map g = node.map (g ∘ f) := by
  cases node with
  | text contents => rfl
  | element name attributes children => simp only [map, mapAll_mapAll g f children]

theorem mapAll_mapAll (g : β → γ) (f : α → β) (nodes : List (Node α)) :
    mapAll g (mapAll f nodes) = mapAll (g ∘ f) nodes := by
  cases nodes with
  | nil => rfl
  | cons node rest => simp only [mapAll, map_map g f node, mapAll_mapAll g f rest]

end

@[simp] theorem shape_map (f : α → β) (node : Node α) : (node.map f).shape = node.shape :=
  map_map (fun _ => ()) f node

mutual

theorem texts_map (f : α → β) (parent : Option Name) (node : Node α) :
    (node.map f).texts parent = (node.texts parent).map (Prod.map id f) := by
  cases node with
  | text contents => rfl
  | element name attributes children => exact textsAll_mapAll f (some name) children

theorem textsAll_mapAll (f : α → β) (parent : Option Name) (nodes : List (Node α)) :
    textsAll parent (mapAll f nodes) = (textsAll parent nodes).map (Prod.map id f) := by
  cases nodes with
  | nil => rfl
  | cons node rest =>
      simp only [mapAll, textsAll, List.map_append, texts_map f parent node,
        textsAll_mapAll f parent rest]

end

end Node

/-- The markup around the texts of a tree: what stands before the first of them, and what stands
behind each. -/
structure Tags where
  start : Text := []
  behind : List Text := []
  deriving DecidableEq, Repr

def Tags.around (tags : Tags) (texts : List Text) : Text :=
  tags.start ++ (texts.zip tags.behind).flatMap fun part => part.1 ++ part.2

/-- The facts that are used of a serializer. It chooses tags and attributes from the tree alone, and
it escapes text but for that directly in an element whose text is taken literally. -/
structure WritesTree (serialize : Serializer) (write : Option Name → Text → Text) : Prop where
  tags : ∃ tags : Node Unit → Tags, ∀ node : Node Text,
    (tags node.shape).behind.length = (node.texts none).length ∧
    serialize node =
      (tags node.shape).around ((node.texts none).map fun text => write text.1 text.2)
  escapes : ∀ parent contents, (∀ name ∈ parent, Name.isLiteral name = false) →
    write parent contents = escapeText contents

end Inlay.Html
