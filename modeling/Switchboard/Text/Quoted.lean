import Switchboard.Text.Hidden

/-!
# Quoted text

Text in double quotes as it appears in one-line summaries: quotes, backslashes and hidden characters
are escaped.
-/

namespace Switchboard.Text

def hexDigits (n : Nat) : String := String.ofList (Nat.toDigits 16 n)

/-- A character as it appears between quotes. -/
def quoteChar (c : Char) : String :=
  match c with
  | '"' => "\\\""
  | '\\' => "\\\\"
  | '\x00' => "\\0"
  | '\t' => "\\t"
  | '\n' => "\\n"
  | '\r' => "\\r"
  | c => if isHidden c then "\\u\x7b" ++ hexDigits c.toNat ++ "\x7d" else c.toString

def quote (s : String) : String := "\"" ++ String.join (s.toList.map quoteChar) ++ "\""

end Switchboard.Text
