import Inlay.Html.Engine

namespace Inlay.Html

/-- Collects the text of tokens, the last character first. -/
structure TextSink where
  reversed : Text := []
  deriving DecidableEq, Repr

namespace TextSink

def push (sink : TextSink) (content : Text) : TextSink :=
  ⟨content.reverse ++ sink.reversed⟩

def text (sink : TextSink) : Text :=
  sink.reversed.reverse

def processToken (sink : TextSink) : Token → TextSink
  | .characters content => sink.push content
  | .nullCharacter => sink.push ['\x00']
  | .other => sink

end TextSink

def textContent (tokenize : Tokenizer) (html : Text) : Text :=
  ((tokenize html).foldl TextSink.processToken {}).text

end Inlay.Html
