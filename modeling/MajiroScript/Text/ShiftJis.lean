import MajiroScript.Text.DoubleByte
import MajiroScript.Text.ShiftJis.Rows

/-! Shift_JIS as script engines use it: ASCII, halfwidth katakana in one byte,
and the two-byte rows with the vendor extensions. -/
namespace MajiroScript.Text.ShiftJis

def single (byte : UInt8) : Option Char :=
  if byte ≤ 0x80 then some (Char.ofNat byte.toNat)
  else if 0xA1 ≤ byte ∧ byte ≤ 0xDF then some (Char.ofNat (0xFF61 + (byte.toNat - 0xA1)))
  else none

def cells : Array (Array Char) :=
  DoubleByte.cells rows

/-- The yen sign and the overline share the bytes of the ASCII characters they
replace in the Japanese variant; the minus sign shares those of the fullwidth
hyphen-minus. -/
def standIn : Char → Char
  | '¥' => '\\'
  | '‾' => '~'
  | '−' => '－'
  | char => char

def table : DoubleByte :=
  ⟨single, DoubleByte.cell? cells, standIn⟩

def charset : Charset :=
  table.charset

end MajiroScript.Text.ShiftJis
