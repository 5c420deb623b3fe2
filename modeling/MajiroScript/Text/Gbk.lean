import MajiroScript.Text.DoubleByte
import MajiroScript.Text.Gbk.Rows

/-! GBK: ASCII, the euro sign in one byte, the two-byte rows, and the three
user-defined areas that map to the private use area in order. -/
namespace MajiroScript.Text.Gbk

def single (byte : UInt8) : Option Char :=
  if byte ≤ 0x7F then some (Char.ofNat byte.toNat)
  else if byte = 0x80 then some '€'
  else none

/-- The user-defined areas, one after another from U+E000.  The cell A3A0 would
be a second fullwidth blank and holds no character. -/
def userDefined? (lead trail : UInt8) : Option Char := do
  let column ← DoubleByte.column? trail
  if lead = 0xA3 ∧ trail = 0xA0 ∨ trail = 0xFF then none
  else if 0xAA ≤ lead ∧ lead ≤ 0xAF ∧ 96 ≤ column then
    some (Char.ofNat (0xE000 + (lead.toNat - 0xAA) * 94 + (column - 96)))
  else if 0xF8 ≤ lead ∧ lead ≤ 0xFE ∧ 96 ≤ column then
    some (Char.ofNat (0xE234 + (lead.toNat - 0xF8) * 94 + (column - 96)))
  else if 0xA1 ≤ lead ∧ lead ≤ 0xA7 ∧ column < 96 then
    some (Char.ofNat (0xE4C6 + (lead.toNat - 0xA1) * 96 + column))
  else none

def cells : Array (Array Char) :=
  DoubleByte.cells rows

def double (lead trail : UInt8) : Option Char :=
  userDefined? lead trail <|> DoubleByte.cell? cells lead trail

/-- Private use characters that have a code point of their own by now.  They
are still written, with the bytes of the character that took their place. -/
def standIn : Char → Char
  | '\ue78d' => '\ufe10'
  | '\ue78e' => '\ufe12'
  | '\ue78f' => '\ufe11'
  | '\ue790' => '\ufe13'
  | '\ue791' => '\ufe14'
  | '\ue792' => '\ufe15'
  | '\ue793' => '\ufe16'
  | '\ue794' => '\ufe17'
  | '\ue795' => '\ufe18'
  | '\ue796' => '\ufe19'
  | '\ue81e' => '\u9fb4'
  | '\ue826' => '\u9fb5'
  | '\ue82b' => '\u9fb6'
  | '\ue82c' => '\u9fb7'
  | '\ue832' => '\u9fb8'
  | '\ue843' => '\u9fb9'
  | '\ue854' => '\u9fba'
  | '\ue864' => '\u9fbb'
  | char => char

def table : DoubleByte :=
  ⟨single, double, standIn⟩

def charset : Charset :=
  table.charset

end MajiroScript.Text.Gbk
