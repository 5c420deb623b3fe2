import MajiroScript.Text.Gbk
import MajiroScript.Text.ShiftJis
import MajiroScript.Text.Utf8

/-! The encodings that text operands can have. -/
namespace MajiroScript.Text

inductive Encoding where
  | shiftJis
  | gbk
  | utf8
  deriving DecidableEq, Repr, Inhabited

structure UnknownEncoding where
  name : String
  deriving DecidableEq, Repr

def UnknownEncoding.message (error : UnknownEncoding) : String :=
  s!"unknown text encoding '{error.name}'"

namespace Encoding

def name : Encoding → String
  | shiftJis => "shift_jis"
  | gbk => "gbk"
  | utf8 => "utf-8"

def ofName (name : String) : Except UnknownEncoding Encoding :=
  match name.toLower with
  | "sjis" | "shift_jis" | "shift-jis" | "cp932" => .ok shiftJis
  | "gbk" | "cp936" => .ok gbk
  | "utf8" | "utf-8" => .ok utf8
  | other => .error ⟨other⟩

def charset : Encoding → Charset
  | shiftJis => ShiftJis.charset
  | gbk => Gbk.charset
  | utf8 => Utf8.charset

def encode (encoding : Encoding) (text : String) : Option Bytes :=
  encoding.charset.encode text

/-- The text of a byte string, if writing that text gives these bytes back. -/
def decodeExact (encoding : Encoding) (bytes : Bytes) : Option String :=
  encoding.charset.decode bytes

end Encoding

end MajiroScript.Text
