import Inlay.Html.Standard.Serializer
import Inlay.Html.Standard.Tokenizer

namespace Inlay.Html

def Standard.engine : Engine :=
  ⟨Standard.tokenize, Standard.serialize⟩

end Inlay.Html
