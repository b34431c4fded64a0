import Std.Data.TreeMap
import Inlay.Text.Blank

namespace Inlay.Style

structure Variables where
  values : Std.TreeMap Text Text := {}

namespace Variables

def empty : Variables := {}

def bareName : Text → Text
  | '-' :: '-' :: name => name
  | name => name

def set (store : Variables) (name value : Text) : Variables :=
  ⟨store.values.insert (bareName name) value⟩

def setMany (store : Variables) (pairs : List (Text × Text)) : Variables :=
  pairs.foldl (fun acc pair => acc.set pair.1 pair.2) store

def get? (store : Variables) (name : Text) : Option Text :=
  store.values[bareName name]?.map Text.trim

/-- Change the value of a name; a name without a value counts as blank. -/
def update (store : Variables) (name : Text) (change : Text → Text) : Variables :=
  store.set name (change ((store.get? name).getD []))

def isEmpty (store : Variables) : Bool :=
  store.values.isEmpty

def propertyCss (entry : Text × Text) : Text :=
  "--".toList ++ entry.1 ++ ": ".toList ++ Text.trim entry.2 ++ "; ".toList

def toCss (store : Variables) : Text :=
  if store.isEmpty then
    []
  else
    ":root \x7b ".toList ++ store.values.toList.flatMap propertyCss ++ "\x7d\n".toList

end Variables

end Inlay.Style
