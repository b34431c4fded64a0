import Inlay.Text.Blank

namespace Inlay.Style

inductive Line where
  | opening (selector : Text)
  | closing
  | declaration (property value : Text)
  | ignored
  deriving DecidableEq, Repr, Inhabited

namespace Line

/-- A line whose trimmed form begins with `!` opens a block and one that is `@` closes one. Any
other line with a space in it declares its first word to be the rest of its words. -/
def classify (raw : Text) : Line :=
  match Text.trim raw with
  | '!' :: selector => opening (Text.trim selector)
  | ['@'] => closing
  | line =>
      if ' ' ∈ line then
        match Text.words line with
        | property :: value => declaration property (Text.unwords value)
        | [] => ignored
      else
        ignored

def toCss : Line → Text
  | opening selector => selector ++ " \x7b ".toList
  | closing => "\x7d\n".toList
  | declaration property value => property ++ ": ".toList ++ value ++ "; ".toList
  | ignored => []

end Line

end Inlay.Style
