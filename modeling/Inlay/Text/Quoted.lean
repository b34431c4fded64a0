import Inlay.Text.Invisible

namespace Inlay.Text

def quoteChar (c : Char) : Text :=
  match c with
  | '"' => ['\\', '"']
  | '\\' => ['\\', '\\']
  | '\n' => ['\\', 'n']
  | '\r' => ['\\', 'r']
  | '\t' => ['\\', 't']
  | '\x00' => ['\\', '0']
  | c =>
      if isInvisible c then
        "\\u\x7b".toList ++ Nat.toDigits 16 c.toNat ++ "\x7d".toList
      else
        [c]

def quoted (text : Text) : Text :=
  '"' :: text.flatMap quoteChar ++ ['"']

end Inlay.Text
