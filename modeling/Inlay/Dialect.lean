import Inlay.Text

namespace Inlay

/-- AAAD blocks become style sheets and AHT blocks become elements. -/
inductive Dialect where
  | stylesheet
  | markup
  deriving DecidableEq, Repr, Inhabited

namespace Dialect

def name : Dialect → Text
  | stylesheet => "AAAD".toList
  | markup => "AHT".toList

def all : List Dialect := [stylesheet, markup]

end Dialect

inductive CompileError where
  | unbalancedTag (offset : Nat) (tag : Text)
  | strayBlockClose (line : Nat)
  | unclosedBlock (line : Nat) (selector : Text)
  deriving DecidableEq, Repr, Inhabited

namespace CompileError

def message : CompileError → Text
  | unbalancedTag offset tag =>
      "aht compile error at offset ".toList ++ Text.ofNat offset ++ ": '\x7b' of @".toList ++
        tag ++ " is never closed".toList
  | strayBlockClose line =>
      "aaad compile error at line ".toList ++ Text.ofNat line ++ ": '@' closes no block".toList
  | unclosedBlock line selector =>
      "aaad compile error at line ".toList ++ Text.ofNat line ++ ": block '".toList ++
        selector ++ "' is never closed".toList

end CompileError

end Inlay
