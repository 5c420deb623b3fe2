/-! JSON reports. -/
namespace MajiroScript.Command

inductive Json where
  | null
  | number (value : Nat)
  | string (text : String)
  | array (items : List Json)
  | object (members : List (String × Json))

namespace Json

def escape : Char → String
  | '"' => "\\\""
  | '\\' => "\\\\"
  | '\n' => "\\n"
  | '\r' => "\\r"
  | '\t' => "\\t"
  | '\x08' => "\\b"
  | '\x0c' => "\\f"
  | char =>
      if char.toNat < 0x20 then
        "\\u00" ++ String.ofList [(char.toNat / 16).digitChar, (char.toNat % 16).digitChar]
      else String.singleton char

def quote (text : String) : String :=
  "\"" ++ String.join (text.toList.map escape) ++ "\""

def indentation (depth : Nat) : String :=
  String.ofList (List.replicate (2 * depth) ' ')

def block (opening closing : String) (depth : Nat) (items : List String) : String :=
  if items.isEmpty then opening ++ closing
  else
    opening ++ "\n" ++ ",\n".intercalate (items.map (indentation (depth + 1) ++ ·)) ++ "\n" ++
      indentation depth ++ closing

mutual

def pretty (depth : Nat) : Json → String
  | null => "null"
  | number value => toString value
  | string text => quote text
  | array items => block "[" "]" depth (prettyItems (depth + 1) items)
  | object members => block "\x7b" "\x7d" depth (prettyMembers (depth + 1) members)

def prettyItems (depth : Nat) : List Json → List String
  | [] => []
  | item :: items => item.pretty depth :: prettyItems depth items

def prettyMembers (depth : Nat) : List (String × Json) → List String
  | [] => []
  | (name, value) :: members =>
      (quote name ++ ": " ++ value.pretty depth) :: prettyMembers depth members

end

end Json

end MajiroScript.Command
