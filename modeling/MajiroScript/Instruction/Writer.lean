import MajiroScript.Codec
import MajiroScript.Instruction

/-! Writing instructions: the opcode, then for each operand its length field if
it has one and its payload.  A record is complete before any of it is written,
so that a failing instruction leaves no bytes behind. -/
namespace MajiroScript

open Text (Encoding)

structure EncodeError where
  opcode : Opcode
  index : Nat
  reason : OperandError
  deriving DecidableEq, Repr

def EncodeError.message (error : EncodeError) : String :=
  s!"opcode {Hex.paddedNumber 4 error.opcode.toNat} operand {error.index}: {error.reason.message}"

namespace Operand

def expectedLength (operand : Operand) (opcode : Opcode) : Nat :=
  match opcode.grammar? with
  | some grammar => grammar.payloadLength operand.declaredLength
  | none => operand.declaredLength.toNat

/-- Payload bytes, unless a length field in the script would misstate them. -/
def checkLength (operand : Operand) (opcode : Opcode) (bytes : Bytes) :
    Except OperandError Bytes :=
  if operand.lengthEmbedded ∧ operand.expectedLength opcode ≠ bytes.length then
    .error (.lengthMismatch operand.declaredLength (operand.expectedLength opcode) bytes.length)
  else
    .ok bytes

def payloadBytes (operand : Operand) (encoding : Encoding) (opcode : Opcode) :
    Except OperandError Bytes :=
  match operand.payload with
  | .numeric value =>
      let width := operand.declaredLength
      if width.toNat < 1 ∨ 4 < width.toNat then .error (.unsupportedWidth width)
      else if value.toNat >>> (8 * width.toNat) ≠ 0 then .error (.overflow value width)
      else .ok (Bytes.ofNatLE width.toNat value.toNat)
  | .text text =>
      match encoding.encode text with
      | none => .error (.unencodable text encoding)
      | some bytes => operand.checkLength opcode bytes
  | .raw bytes => operand.checkLength opcode bytes

def lengthField (operand : Operand) : Bytes :=
  if operand.lengthEmbedded then Bytes.ofUInt16 operand.declaredLength else []

def encode (operand : Operand) (encoding : Encoding) (opcode : Opcode) :
    Except OperandError Bytes :=
  (operand.payloadBytes encoding opcode).map (operand.lengthField ++ ·)

end Operand

namespace Codec

def encode (codec : Codec) (instruction : Instruction) : Except EncodeError Bytes := do
  let fields ← instruction.operands.zipIdx.mapM fun (operand, index) =>
    (operand.encode codec.encoding instruction.opcode).mapError
      (EncodeError.mk instruction.opcode index)
  pure (Bytes.ofUInt16 instruction.opcode ++ fields.flatten)

def encodeAll (codec : Codec) (instructions : List Instruction) : Except EncodeError Bytes := do
  let records ← instructions.mapM codec.encode
  pure records.flatten

end Codec

structure Writer where
  codec : Codec
  -- The record that is being put together. Behind an instruction that failed it is
  -- left as far as it went.
  staged : Bytes := []
  -- Records written so far, the latest first.
  records : List Bytes := []
  bytesWritten : Nat := 0
  instructionsWritten : Nat := 0
  deriving DecidableEq, Repr

namespace Writer

def output (writer : Writer) : Bytes :=
  writer.records.reverse.flatten

def stage (writer : Writer) (bytes : Bytes) : Writer :=
  { writer with staged := writer.staged ++ bytes }

/-- The length field is staged before the payload is known to be right. -/
def stageOperand (writer : Writer) (opcode : Opcode) (operand : Operand) :
    Except OperandError Unit × Writer :=
  let begun := writer.stage operand.lengthField
  match operand.payloadBytes writer.codec.encoding opcode with
  | .error reason => (.error reason, begun)
  | .ok bytes => (.ok (), begun.stage bytes)

def stageOperands (writer : Writer) (opcode : Opcode) (index : Nat) :
    List Operand → Except EncodeError Unit × Writer
  | [] => (.ok (), writer)
  | operand :: operands =>
      match writer.stageOperand opcode operand with
      | (.error reason, after) => (.error ⟨opcode, index, reason⟩, after)
      | (.ok (), after) => after.stageOperands opcode (index + 1) operands

def commit (writer : Writer) : Writer :=
  { writer with
    records := writer.staged :: writer.records
    bytesWritten := writer.bytesWritten + writer.staged.length
    instructionsWritten := writer.instructionsWritten + 1 }

/-- Writes one instruction, or nothing if it fails.  What an earlier instruction
has left staged is dropped first. -/
def write (writer : Writer) (instruction : Instruction) : Except EncodeError Unit × Writer :=
  let cleared := { writer with staged := [] }
  let begun := cleared.stage (Bytes.ofUInt16 instruction.opcode)
  match begun.stageOperands instruction.opcode 0 instruction.operands with
  | (.error error, after) => (.error error, after)
  | (.ok (), after) => (.ok (), after.commit)

end Writer

end MajiroScript
