import Inlay.Text

namespace Inlay.Html

inductive Namespace where
  | none
  | html
  deriving DecidableEq, Repr

structure Name where
  space : Namespace
  spelling : Text
  deriving DecidableEq, Repr

/-- A node of an HTML tree, whose texts may say things of any type. -/
inductive Node (α : Type) where
  | text (contents : α)
  | element (name : Name) (attributes : List (Name × Text)) (children : List (Node α))

/-- Writes a node, itself included, with all that is in it. -/
abbrev Serializer := Node Text → Text

inductive Token where
  | characters (content : Text)
  | nullCharacter
  | other
  deriving DecidableEq, Repr

/-- The tokens of a text, for a sink that lets the tokenizer go on after each of them. -/
abbrev Tokenizer := Text → List Token

/-- What is used of an HTML library. -/
structure Engine where
  tokenize : Tokenizer
  serialize : Serializer

end Inlay.Html
