import MajiroScript.Bytes.Hex
import MajiroScript.Text.Unprintable

/-! Text between double quotes for messages, with everything that a terminal
would not show escaped. -/
namespace MajiroScript.Text

namespace Quoted

def escape : Char → String
  | '"' => "\\\""
  | '\\' => "\\\\"
  | '\x00' => "\\0"
  | '\t' => "\\t"
  | '\r' => "\\r"
  | '\n' => "\\n"
  | char =>
      if isUnprintable char then "\\u\x7b" ++ Hex.digits char.toNat ++ "\x7d"
      else String.singleton char

end Quoted

def quoted (text : String) : String :=
  "\"" ++ String.join (text.toList.map Quoted.escape) ++ "\""

end MajiroScript.Text
