import Inlay.Text

namespace Inlay

structure Attributes where
  entries : List (Text × Text) := []
  deriving DecidableEq, Repr, Inhabited

namespace Attributes

def empty : Attributes := {}

/-- Overwrite the first entry of a name, or add the name at the end. -/
def insertEntry (name value : Text) : List (Text × Text) → List (Text × Text)
  | [] => [(name, value)]
  | entry :: rest =>
      if entry.1 = name then (name, value) :: rest
      else entry :: insertEntry name value rest

def insert (attributes : Attributes) (name value : Text) : Attributes :=
  ⟨insertEntry name value attributes.entries⟩

def insertMany (attributes : Attributes) (pairs : List (Text × Text)) : Attributes :=
  pairs.foldl (fun acc pair => acc.insert pair.1 pair.2) attributes

def ofList (pairs : List (Text × Text)) : Attributes :=
  empty.insertMany pairs

def names (attributes : Attributes) : List Text :=
  attributes.entries.map Prod.fst

def get? (attributes : Attributes) (name : Text) : Option Text :=
  (attributes.entries.find? (fun entry => entry.1 == name)).map Prod.snd

def contains (attributes : Attributes) (name : Text) : Bool :=
  attributes.entries.any (fun entry => entry.1 == name)

def size (attributes : Attributes) : Nat :=
  attributes.entries.length

def isEmpty (attributes : Attributes) : Bool :=
  attributes.entries.isEmpty

@[simp] theorem entries_insert (attributes : Attributes) (name value : Text) :
    (attributes.insert name value).entries = insertEntry name value attributes.entries := rfl

@[simp] theorem insertMany_nil (attributes : Attributes) : attributes.insertMany [] = attributes :=
  rfl

@[simp] theorem insertMany_cons (attributes : Attributes) (pair : Text × Text)
    (pairs : List (Text × Text)) :
    attributes.insertMany (pair :: pairs) =
      (attributes.insert pair.1 pair.2).insertMany pairs := rfl

theorem insertMany_append (attributes : Attributes) (first second : List (Text × Text)) :
    attributes.insertMany (first ++ second) =
      (attributes.insertMany first).insertMany second := by
  simp [insertMany, List.foldl_append]

end Attributes

end Inlay
