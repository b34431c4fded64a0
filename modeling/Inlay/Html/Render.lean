import Inlay.Forest
import Inlay.Html.Engine

namespace Inlay.Html

section

variable {α : Type}

def createText (contents : α) : Node α :=
  .text contents

/-- The element for a tag. Only the element itself stands in a namespace. -/
def createElement (tag : Text) (attributes : Attributes) (children : List (Node α)) : Node α :=
  .element ⟨.html, tag⟩ (attributes.entries.map fun entry => (⟨.none, entry.1⟩, entry.2)) children

end

def buildNodes : Forest → List (Node Text)
  | .nil => []
  | .text content rest => createText content :: buildNodes rest
  | .element tag attributes children rest =>
      createElement tag attributes (buildNodes children) :: buildNodes rest

/-- The HTML of a forest. Each of its nodes is written for itself. -/
def renderForest (serialize : Serializer) (forest : Forest) : Text :=
  (buildNodes forest).flatMap serialize

end Inlay.Html
