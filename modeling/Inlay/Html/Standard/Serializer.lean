import Inlay.Html.Escape

namespace Inlay.Html.Standard

def voidTags : List Text :=
  ["area", "base", "basefont", "bgsound", "br", "col", "embed", "frame", "hr", "img", "input",
    "keygen", "link", "meta", "param", "source", "track", "wbr"].map String.toList

def isVoid (name : Name) : Bool :=
  name.space == .html && voidTags.contains name.spelling

def escapeValueChar (c : Char) : Text :=
  match c with
  | '&' => "&amp;".toList
  | '\u00A0' => "&nbsp;".toList
  | '"' => "&quot;".toList
  | c => [c]

def escapeValue (value : Text) : Text :=
  value.flatMap escapeValueChar

def openTag (name : Name) (attributes : List (Name × Text)) : Text :=
  '<' :: name.spelling ++
    attributes.flatMap (fun entry =>
      ' ' :: entry.1.spelling ++ ['=', '"'] ++ escapeValue entry.2 ++ ['"']) ++ ['>']

def closeTag (name : Name) : Text :=
  ['<', '/'] ++ name.spelling ++ ['>']

/-- Where a node stands: directly in an element, and anywhere inside a void one. -/
structure Context where
  parent : Option Name := none
  insideVoid : Bool := false
  deriving DecidableEq, Repr

def Context.inside (context : Context) (name : Name) : Context :=
  ⟨some name, context.insideVoid || isVoid name⟩

def writeText (parent : Option Name) (contents : Text) : Text :=
  if parent.any Name.isLiteral then contents else escapeText contents

mutual

/-- The HTML of a node in front of a text. No element inside a void one is written; the texts in it
are. -/
def serializeBefore (context : Context) (back : Text) : Node Text → Text
  | .text contents => writeText context.parent contents ++ back
  | .element name attributes children =>
      (if context.insideVoid then [] else openTag name attributes) ++
        serializeAllBefore (context.inside name)
          ((if context.insideVoid || isVoid name then [] else closeTag name) ++ back) children

def serializeAllBefore (context : Context) (back : Text) : List (Node Text) → Text
  | [] => back
  | node :: rest => serializeBefore context (serializeAllBefore context back rest) node

end

def serialize (node : Node Text) : Text :=
  serializeBefore {} [] node

end Inlay.Html.Standard
