import Inlay.Document
import Inlay.Html.Render
import Inlay.Text.Search

namespace Inlay

def Segment.render (serialize : Html.Serializer) : Segment → Text
  | plain content => content
  | block slot =>
      match slot.replacement with
      | some forest => Html.renderForest serialize forest
      | none => slot.raw

namespace Document

def body (serialize : Html.Serializer) (document : Document) : Text :=
  document.segments.flatMap (Segment.render serialize)

/-- Put a backslash into every `</`, so that a style sheet cannot close its element. -/
def escapeCss : Text → Text
  | [] => []
  | '<' :: '/' :: rest => '<' :: '\\' :: '/' :: escapeCss rest
  | c :: rest => c :: escapeCss rest

def styleElement (css : Text) : Text :=
  "<style>".toList ++ escapeCss css ++ "</style>\n".toList

def styleElements (document : Document) : Text :=
  document.stylesheets.flatMap styleElement

def headEnd : Text :=
  "</head>".toList

/-- Put a text before the first end of a head in another one, or before all of it. -/
def insertInHead (styles body : Text) : Text :=
  match Text.findFold? headEnd body with
  | some hit => hit.before ++ styles ++ hit.found ++ hit.after
  | none => styles ++ body

def render (serialize : Html.Serializer) (document : Document) : Text :=
  if document.stylesheets.isEmpty then document.body serialize
  else insertInHead document.styleElements (document.body serialize)

end Document

end Inlay
