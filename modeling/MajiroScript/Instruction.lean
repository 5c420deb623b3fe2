import MajiroScript.Bytes.Hex
import MajiroScript.Opcode
import MajiroScript.Text.Encoding
import MajiroScript.Text.Quoted

/-! Instructions as values: an opcode and its operands in script order. -/
namespace MajiroScript

open Text (Encoding)

inductive Payload where
  | numeric (value : UInt32)
  | text (content : String)
  | raw (bytes : Bytes)
  deriving DecidableEq, Repr

structure Operand where
  -- Width of a number; otherwise the value of the length field.
  declaredLength : UInt16
  -- Whether the length field stands in the script.
  lengthEmbedded : Bool
  payload : Payload
  deriving DecidableEq, Repr

structure Instruction where
  opcode : Opcode
  operands : List Operand
  deriving DecidableEq, Repr

inductive OperandError where
  | unsupportedWidth (width : UInt16)
  | overflow (value : UInt32) (width : UInt16)
  | unencodable (text : String) (encoding : Encoding)
  | tooLong (length : Nat)
  | lengthMismatch (declared : UInt16) (expected actual : Nat)
  deriving DecidableEq, Repr

def OperandError.message : OperandError → String
  | unsupportedWidth width => s!"numeric width {width.toNat} is not 1..=4 bytes"
  | overflow value width => s!"value {value.toNat} does not fit in {width.toNat} byte(s)"
  | unencodable text encoding =>
      s!"text {Text.quoted text} cannot be represented in {encoding.name}"
  | tooLong length => s!"{length} byte payload exceeds the 16-bit length prefix"
  | lengthMismatch declared expected actual =>
      s!"length prefix {declared.toNat} implies {expected} payload bytes, found {actual}"

namespace Operand

def numeric (width : UInt16) (value : UInt32) : Operand :=
  ⟨width, false, .numeric value⟩

def raw (declaredLength : UInt16) (bytes : Bytes) : Operand :=
  ⟨declaredLength, true, .raw bytes⟩

def text (text : String) (encoding : Encoding) : Except OperandError Operand :=
  match encoding.encode text with
  | none => .error (.unencodable text encoding)
  | some bytes =>
      if bytes.length < 0x10000 then .ok ⟨bytes.length.toUInt16, true, .text text⟩
      else .error (.tooLong bytes.length)

end Operand

end MajiroScript
