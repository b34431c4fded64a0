import Std.Data.TreeMap
import Inlay.Forest

namespace Inlay

structure Template where
  marker : Text
  values : Std.TreeMap Text Text := {}

namespace Template

def defaultMarker : Text :=
  "template-value".toList

def empty : Template :=
  { marker := defaultMarker }

def withMarker (template : Template) (marker : Text) : Template :=
  { template with marker := marker }

def set (template : Template) (key value : Text) : Template :=
  { template with values := template.values.insert key value }

def setMany (template : Template) (pairs : List (Text × Text)) : Template :=
  pairs.foldl (fun acc pair => acc.set pair.1 pair.2) template

def get? (template : Template) (key : Text) : Option Text :=
  template.values[key]?

def isEmpty (template : Template) : Bool :=
  template.values.isEmpty

/-- The value for an element with given attributes, if it is a slot that has one. -/
def valueFor? (template : Template) (attributes : Attributes) : Option Text :=
  (attributes.get? template.marker).bind template.get?

/-- A slot whose key has a value gets that value as its only child. Slots are looked for inside
every other element. -/
def fill (template : Template) : Forest → Forest
  | .nil => .nil
  | .text content rest => .text content (template.fill rest)
  | .element tag attributes children rest =>
      match template.valueFor? attributes with
      | some value => .element tag attributes (.text value .nil) (template.fill rest)
      | none => .element tag attributes (template.fill children) (template.fill rest)

/-- The number of slots of a forest that get a value. -/
def slotCount (template : Template) : Forest → Nat
  | .nil => 0
  | .text _ rest => template.slotCount rest
  | .element _ attributes children rest =>
      match template.valueFor? attributes with
      | some _ => template.slotCount rest + 1
      | none => template.slotCount children + template.slotCount rest

def slotCountAll (template : Template) : List Forest → Nat
  | [] => 0
  | forest :: rest => template.slotCount forest + template.slotCountAll rest

end Template

end Inlay
