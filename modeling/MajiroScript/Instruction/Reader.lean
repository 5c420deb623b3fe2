import MajiroScript.Bytes.Cursor
import MajiroScript.Codec
import MajiroScript.Instruction

/-! Reading instructions one after another.  Reading stops for good at the first
error, because the boundaries of later instructions cannot be found then, and at
the end, where fewer than two bytes are left. -/
namespace MajiroScript

open Text (Encoding)

inductive DecodeError where
  | unknownOpcode (opcode : Opcode) (offset : Nat)
  | truncated (opcode : Opcode) (offset needed available : Nat)
  | invalidText (opcode : Opcode) (offset : Nat) (encoding : Encoding)
  deriving DecidableEq, Repr

namespace DecodeError

def offset : DecodeError → Nat
  | unknownOpcode _ offset => offset
  | truncated _ offset _ _ => offset
  | invalidText _ offset _ => offset

def message : DecodeError → String
  | unknownOpcode opcode offset =>
      s!"unknown opcode {Hex.paddedNumber 4 opcode.toNat} at offset {Hex.number offset}"
  | truncated opcode offset needed available =>
      s!"opcode {Hex.paddedNumber 4 opcode.toNat} at offset {Hex.number offset} " ++
        s!"needs {needed} operand bytes, {available} available"
  | invalidText opcode offset encoding =>
      s!"opcode {Hex.paddedNumber 4 opcode.toNat} at offset {Hex.number offset}: " ++
        s!"operand is not valid {encoding.name} text"

end DecodeError

namespace Codec

def textPayload (codec : Codec) (opcode : Opcode) (offset : Nat) (bytes : Bytes) :
    Except DecodeError Payload :=
  match codec.encoding.decodeExact bytes with
  | some text => .ok (.text text)
  | none =>
      if codec.strictText then .error (.invalidText opcode offset codec.encoding)
      else .ok (.raw bytes)

def sizedPayload (codec : Codec) (opcode : Opcode) (offset : Nat) (grammar : Grammar)
    (bytes : Bytes) : Except DecodeError Payload :=
  match grammar with
  | .text => codec.textPayload opcode offset bytes
  | _ => .ok (.raw bytes)

def readSized (codec : Codec) (opcode : Opcode) (offset : Nat) (grammar : Grammar)
    (cursor : Cursor) : Except DecodeError (List Operand) × Cursor :=
  match cursor.readUInt16? with
  | none => (.error (.truncated opcode offset 2 cursor.remaining), cursor)
  | some (declared, behindLength) =>
      let length := grammar.payloadLength declared
      match behindLength.take? length with
      | none =>
          (.error (.truncated opcode offset length behindLength.remaining), behindLength)
      | some (bytes, after) =>
          ((codec.sizedPayload opcode offset grammar bytes).map fun payload =>
            [⟨declared, true, payload⟩], after)

def readOperands (codec : Codec) (opcode : Opcode) (offset : Nat) (grammar : Grammar)
    (cursor : Cursor) : Except DecodeError (List Operand) × Cursor :=
  match grammar with
  | .bare => (.ok [], cursor)
  | .fixed widths =>
      match cursor.readUInts? widths with
      | some (values, after) => (.ok (List.zipWith Operand.numeric widths values), after)
      | none =>
          (.error (.truncated opcode offset grammar.minOperandLength cursor.remaining), cursor)
  | .text | .raw | .table _ => codec.readSized opcode offset grammar cursor

def readInstruction (codec : Codec) (opcode : Opcode) (offset : Nat) (cursor : Cursor) :
    Except DecodeError Instruction × Cursor :=
  match opcode.grammar? with
  | none => (.error (.unknownOpcode opcode offset), cursor)
  | some grammar =>
      let (operands, after) := codec.readOperands opcode offset grammar cursor
      (operands.map (Instruction.mk opcode), after)

theorem readSized_remaining_le (codec : Codec) (opcode : Opcode) (offset : Nat)
    (grammar : Grammar) (cursor : Cursor) :
    (codec.readSized opcode offset grammar cursor).2.remaining ≤ cursor.remaining := by
  unfold readSized
  split
  · exact Nat.le_refl _
  · rename_i declared behindLength hlength
    have hbehind := Cursor.remaining_of_readUInt16? hlength
    dsimp only
    split
    · dsimp only
      omega
    · rename_i bytes after htake
      have hafter := Cursor.remaining_of_take? htake
      dsimp only
      omega

theorem readOperands_remaining_le (codec : Codec) (opcode : Opcode) (offset : Nat)
    (grammar : Grammar) (cursor : Cursor) :
    (codec.readOperands opcode offset grammar cursor).2.remaining ≤ cursor.remaining := by
  cases grammar with
  | bare => exact Nat.le_refl _
  | fixed widths =>
      unfold readOperands
      dsimp only
      split
      · rename_i values after hread
        have hafter := Cursor.remaining_of_readUInts? hread
        dsimp only
        omega
      · exact Nat.le_refl _
  | text => exact readSized_remaining_le ..
  | raw => exact readSized_remaining_le ..
  | table stride => exact readSized_remaining_le ..

theorem readInstruction_remaining_le (codec : Codec) (opcode : Opcode) (offset : Nat)
    (cursor : Cursor) :
    (codec.readInstruction opcode offset cursor).2.remaining ≤ cursor.remaining := by
  unfold readInstruction
  split
  · exact Nat.le_refl _
  · exact readOperands_remaining_le ..

end Codec

structure Reader where
  codec : Codec
  cursor : Cursor
  failed : Bool := false
  deriving DecidableEq, Repr

structure Step where
  instruction : Instruction
  start : Nat
  stop : Nat
  deriving DecidableEq, Repr

structure Run where
  steps : List Step
  error? : Option DecodeError
  last : Reader
  deriving DecidableEq, Repr

namespace Reader

def ofBody (codec : Codec) (body : Bytes) : Reader :=
  { codec, cursor := .ofBytes body }

def position (reader : Reader) : Nat :=
  reader.cursor.position

def remainder (reader : Reader) : Bytes :=
  reader.cursor.rest

/-- The next instruction or the error that ends the reading.  Nothing at the
end or after an error, and then the reader stays as it is. -/
def next (reader : Reader) : Option (Except DecodeError Instruction) × Reader :=
  if reader.failed then (none, reader)
  else
    match reader.cursor.readUInt16? with
    | none => (none, reader)
    | some (opcode, behindOpcode) =>
        match reader.codec.readInstruction opcode reader.position behindOpcode with
        | (.ok instruction, after) => (some (.ok instruction), { reader with cursor := after })
        | (.error error, after) =>
            (some (.error error), { reader with cursor := after, failed := true })

theorem remaining_of_next {reader after : Reader} {item : Except DecodeError Instruction}
    (h : reader.next = (some item, after)) :
    after.cursor.remaining + 2 ≤ reader.cursor.remaining := by
  unfold next at h
  split at h
  · simp at h
  · split at h
    · simp at h
    · rename_i opcode behindOpcode hopcode
      have hbehind := Cursor.remaining_of_readUInt16? hopcode
      have hle := Codec.readInstruction_remaining_le reader.codec opcode reader.position
        behindOpcode
      split at h
      all_goals
        rename_i hread
        rw [hread] at hle
        simp only [Prod.mk.injEq, Option.some.injEq] at h
        obtain ⟨-, rfl⟩ := h
        dsimp only at hle ⊢
        omega

/-- Runs a reader to its end.  The steps before come last first. -/
def runFrom (reader : Reader) (before : List Step) : Run :=
  match _ : reader.next with
  | (none, last) => ⟨before.reverse, none, last⟩
  | (some (.error error), last) => ⟨before.reverse, some error, last⟩
  | (some (.ok instruction), after) =>
      after.runFrom (⟨instruction, reader.position, after.position⟩ :: before)
termination_by reader.cursor.remaining
decreasing_by
  rename_i hnext
  have hshorter := remaining_of_next hnext
  omega

def run (reader : Reader) : Run :=
  reader.runFrom []

end Reader

namespace Run

def instructions (run : Run) : List Instruction :=
  run.steps.map Step.instruction

def result (run : Run) : Except DecodeError (List Instruction) :=
  match run.error? with
  | none => .ok run.instructions
  | some error => .error error

end Run

namespace Codec

def run (codec : Codec) (body : Bytes) : Run :=
  (Reader.ofBody codec body).run

/-- All instructions of a body.  A single byte behind the last one is ignored. -/
def decodeAll (codec : Codec) (body : Bytes) : Except DecodeError (List Instruction) :=
  (codec.run body).result

end Codec

end MajiroScript
