import Inlay.Html.Engine

namespace Inlay.Html

/-- Elements whose text HTML takes literally. -/
def literalTags : List Text :=
  ["style", "script", "xmp", "iframe", "noembed", "noframes", "plaintext",
    "noscript"].map String.toList

def isLiteral (tag : Text) : Bool :=
  literalTags.contains tag

def Name.isLiteral (name : Name) : Bool :=
  name.space == .html && Html.isLiteral name.spelling

def escapeTextChar (c : Char) : Text :=
  match c with
  | '&' => "&amp;".toList
  | '\u00A0' => "&nbsp;".toList
  | '<' => "&lt;".toList
  | '>' => "&gt;".toList
  | c => [c]

def escapeText (text : Text) : Text :=
  text.flatMap escapeTextChar

end Inlay.Html
