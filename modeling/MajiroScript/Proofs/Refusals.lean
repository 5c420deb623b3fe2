import MajiroScript.Instruction.Reader
import MajiroScript.Proofs.Fields
import MajiroScript.Proofs.Outcome

/-! Why an instruction cannot be read, told from its opcode and the bytes behind
it alone.  A reader gives an error exactly when one of these reasons holds. -/
namespace MajiroScript

open Outcome

def DecodeError.opcode : DecodeError → Opcode
  | unknownOpcode opcode _ => opcode
  | truncated opcode _ _ _ => opcode
  | invalidText opcode _ _ => opcode

namespace Grammar

def hasLengthField : Grammar → Bool
  | bare | fixed _ => false
  | text | raw | table _ => true

theorem minOperandLength_fixed (widths : List UInt16) :
    (fixed widths).minOperandLength = (widths.map UInt16.toNat).sum := by
  simp only [minOperandLength, List.sum_eq_foldr, List.foldr_map]

end Grammar

namespace Codec

/-- The operands of an opcode at `offset` cannot be read from the bytes behind
it.  What is reported as available is all that is left behind the opcode, or
behind the length field if that could be read. -/
inductive Refuses (codec : Codec) (opcode : Opcode) (offset : Nat) :
    (operands : Bytes) → DecodeError → Prop where
  | unknownOpcode {operands : Bytes} (grammar_eq : opcode.grammar? = none) :
      Refuses codec opcode offset operands (.unknownOpcode opcode offset)
  | numbers {operands : Bytes} {widths : List UInt16}
      (grammar_eq : opcode.grammar? = some (.fixed widths))
      (short : operands.length < (widths.map UInt16.toNat).sum) :
      Refuses codec opcode offset operands
        (.truncated opcode offset (widths.map UInt16.toNat).sum operands.length)
  | lengthField {operands : Bytes} {grammar : Grammar} (grammar_eq : opcode.grammar? = some grammar)
      (sized : grammar.hasLengthField) (short : operands.length < 2) :
      Refuses codec opcode offset operands (.truncated opcode offset 2 operands.length)
  | payload {declared : UInt16} {rest : Bytes} {grammar : Grammar}
      (grammar_eq : opcode.grammar? = some grammar) (sized : grammar.hasLengthField)
      (short : rest.length < grammar.payloadLength declared) :
      Refuses codec opcode offset (Bytes.ofUInt16 declared ++ rest)
        (.truncated opcode offset (grammar.payloadLength declared) rest.length)
  | text {declared : UInt16} {bytes rest : Bytes} (grammar_eq : opcode.grammar? = some .text)
      (strict : codec.strictText = true) (length_eq : bytes.length = declared.toNat)
      (invalid : codec.encoding.decodeExact bytes = none) :
      Refuses codec opcode offset (Bytes.ofUInt16 declared ++ (bytes ++ rest))
        (.invalidText opcode offset codec.encoding)

variable {codec : Codec} {opcode : Opcode} {offset : Nat} {grammar : Grammar} {cursor : Cursor}
  {error : DecodeError}

theorem Refuses.offset_eq {operands : Bytes} (h : codec.Refuses opcode offset operands error) :
    error.offset = offset := by
  cases h <;> rfl

theorem Refuses.opcode_eq {operands : Bytes} (h : codec.Refuses opcode offset operands error) :
    error.opcode = opcode := by
  cases h <;> rfl

theorem readOperands_of_hasLengthField (h : grammar.hasLengthField) :
    codec.readOperands opcode offset grammar cursor =
      codec.readSized opcode offset grammar cursor := by
  cases grammar with
  | bare | fixed => contradiction
  | text | raw | table => rfl

theorem readSized_of_no_length (h : cursor.remaining < 2) :
    codec.readSized opcode offset grammar cursor =
      (.error (.truncated opcode offset 2 cursor.remaining), cursor) := by
  rw [readSized, Cursor.readUInt16?_eq_none_iff.mpr h]

theorem readSized_of_short {declared : UInt16} {behindLength : Cursor}
    (hlength : cursor.Advances (Bytes.ofUInt16 declared) behindLength)
    (hshort : behindLength.remaining < grammar.payloadLength declared) :
    codec.readSized opcode offset grammar cursor =
      (.error (.truncated opcode offset (grammar.payloadLength declared) behindLength.remaining),
        behindLength) := by
  rw [readSized, Cursor.readUInt16?_eq_some_iff.mpr hlength]
  simp only [Cursor.take?_eq_none_iff.mpr hshort]

theorem readSized_of_whole {declared : UInt16} {bytes : Bytes} {after : Cursor}
    (hbytes : bytes.length = grammar.payloadLength declared)
    (hadvances : cursor.Advances (Bytes.ofUInt16 declared ++ bytes) after) :
    codec.readSized opcode offset grammar cursor =
      ((codec.sizedPayload opcode offset grammar bytes).map fun payload =>
        [⟨declared, true, payload⟩], after) := by
  obtain ⟨behindLength, hlength, hbehind⟩ := Cursor.advances_append.mp hadvances
  rw [readSized, Cursor.readUInt16?_eq_some_iff.mpr hlength]
  simp only [Cursor.take?_eq_some_iff_advances.mpr ⟨hbytes, hbehind⟩]

theorem sizedPayload_eq_error_iff {bytes : Bytes} :
    codec.sizedPayload opcode offset grammar bytes = .error error ↔
      grammar = .text ∧ codec.strictText = true ∧ codec.encoding.decodeExact bytes = none ∧
        error = .invalidText opcode offset codec.encoding := by
  cases grammar with
  | text =>
      simp only [sizedPayload, textPayload]
      split
      · simp [*]
      · split
        · simp [*, eq_comm]
        · simp [*]
  | bare | fixed | raw | table => simp [sizedPayload]

theorem refuses_of_readSized (hgrammar : opcode.grammar? = some grammar)
    (hsized : grammar.hasLengthField)
    (h : (codec.readSized opcode offset grammar cursor).1 = .error error) :
    codec.Refuses opcode offset cursor.rest error := by
  cases hlength : cursor.readUInt16? with
  | none =>
      have hshort := Cursor.readUInt16?_eq_none_iff.mp hlength
      rw [readSized_of_no_length hshort] at h
      cases h
      exact .lengthField hgrammar hsized hshort
  | some field =>
      obtain ⟨declared, behindLength⟩ := field
      have hfield := Cursor.readUInt16?_eq_some_iff.mp hlength
      rw [hfield.1]
      cases hbytes : behindLength.take? (grammar.payloadLength declared) with
      | none =>
          have hshort := Cursor.take?_eq_none_iff.mp hbytes
          rw [readSized_of_short hfield hshort] at h
          cases h
          exact .payload hgrammar hsized hshort
      | some taken =>
          obtain ⟨bytes, after⟩ := taken
          obtain ⟨hcount, hbehind⟩ := Cursor.take?_eq_some_iff_advances.mp hbytes
          rw [readSized_of_whole hcount (Cursor.advances_append.mpr ⟨_, hfield, hbehind⟩),
            map_eq_error_iff, sizedPayload_eq_error_iff] at h
          obtain ⟨rfl, hstrict, hinvalid, rfl⟩ := h
          rw [hbehind.1]
          exact .text hgrammar hstrict hcount hinvalid

theorem refuses_of_readInstruction
    (h : (codec.readInstruction opcode offset cursor).1 = .error error) :
    codec.Refuses opcode offset cursor.rest error := by
  cases hgrammar : opcode.grammar? with
  | none =>
      simp only [readInstruction, hgrammar] at h
      cases h
      exact .unknownOpcode hgrammar
  | some grammar =>
      simp only [readInstruction, hgrammar, map_eq_error_iff] at h
      cases grammar with
      | bare => contradiction
      | fixed widths =>
          simp only [readOperands] at h
          split at h
          · contradiction
          · rename_i hnone
            cases h
            rw [Grammar.minOperandLength_fixed]
            exact .numbers hgrammar (Cursor.readUInts?_eq_none_iff.mp hnone)
      | text => exact refuses_of_readSized hgrammar rfl h
      | raw => exact refuses_of_readSized hgrammar rfl h
      | table stride => exact refuses_of_readSized hgrammar rfl h

theorem readInstruction_of_sized (hgrammar : opcode.grammar? = some grammar)
    (hsized : grammar.hasLengthField) :
    codec.readInstruction opcode offset cursor =
      ((codec.readSized opcode offset grammar cursor).1.map (Instruction.mk opcode),
        (codec.readSized opcode offset grammar cursor).2) := by
  simp only [readInstruction, hgrammar, readOperands_of_hasLengthField hsized]

theorem Refuses.readInstruction (h : codec.Refuses opcode offset cursor.rest error) :
    (codec.readInstruction opcode offset cursor).1 = .error error := by
  generalize hrest : cursor.rest = operands at h
  cases h with
  | unknownOpcode hgrammar => simp only [Codec.readInstruction, hgrammar]
  | numbers hgrammar hshort =>
      subst hrest
      simp only [Codec.readInstruction, hgrammar, readOperands,
        Cursor.readUInts?_eq_none_iff.mpr hshort, Grammar.minOperandLength_fixed]
      rfl
  | lengthField hgrammar hsized hshort =>
      subst hrest
      rw [readInstruction_of_sized hgrammar hsized, readSized_of_no_length hshort]
      rfl
  | @payload declared rest grammar hgrammar hsized hshort =>
      have hlength : cursor.Advances (Bytes.ofUInt16 declared) ⟨cursor.position + 2, rest⟩ :=
        ⟨hrest, rfl⟩
      rw [readInstruction_of_sized hgrammar hsized, readSized_of_short hlength hshort]
      rfl
  | @text declared bytes rest hgrammar hstrict hcount hinvalid =>
      have hwhole : cursor.Advances (Bytes.ofUInt16 declared ++ bytes)
          ⟨cursor.position + (Bytes.ofUInt16 declared ++ bytes).length, rest⟩ := by
        refine ⟨?_, rfl⟩
        rw [hrest, List.append_assoc]
      have hpayload : codec.sizedPayload opcode offset .text bytes =
          .error (.invalidText opcode offset codec.encoding) :=
        sizedPayload_eq_error_iff.mpr ⟨rfl, hstrict, hinvalid, rfl⟩
      rw [readInstruction_of_sized hgrammar rfl, readSized_of_whole hcount hwhole, hpayload]
      rfl

end Codec

namespace Reader

theorem next_of_opcode {reader : Reader} {opcode : Opcode} {operands : Bytes}
    (hgood : reader.failed = false)
    (hopcode : reader.remainder = Bytes.ofUInt16 opcode ++ operands) :
    reader.next =
      match reader.codec.readInstruction opcode reader.position
          ⟨reader.position + 2, operands⟩ with
      | (.ok instruction, cursor) => (some (.ok instruction), { reader with cursor })
      | (.error error, cursor) =>
          (some (.error error), { reader with cursor, failed := true }) := by
  have hread : reader.cursor.readUInt16? = some (opcode, ⟨reader.position + 2, operands⟩) :=
    Cursor.readUInt16?_eq_some_iff.mpr ⟨hopcode, rfl⟩
  rw [next, hgood, hread]
  rfl

theorem next_eq_error_iff {reader : Reader} {error : DecodeError} :
    reader.next.1 = some (.error error) ↔
      reader.failed = false ∧ ∃ opcode operands,
        reader.remainder = Bytes.ofUInt16 opcode ++ operands ∧
          reader.codec.Refuses opcode reader.position operands error := by
  constructor
  · intro h
    unfold next at h
    split at h
    · contradiction
    · rename_i hgood
      split at h
      · contradiction
      · rename_i opcode behindOpcode hread
        have hopcode := Cursor.readUInt16?_eq_some_iff.mp hread
        refine ⟨by simpa using hgood, opcode, behindOpcode.rest, hopcode.1, ?_⟩
        apply Codec.refuses_of_readInstruction
        split at h
        · cases h
        · rename_i hrefused
          cases h
          rw [hrefused]
  · rintro ⟨hgood, opcode, operands, hopcode, hrefuses⟩
    have hread : (reader.codec.readInstruction opcode reader.position
        ⟨reader.position + 2, operands⟩).1 = .error error :=
      hrefuses.readInstruction
    rw [next_of_opcode hgood hopcode]
    split
    · rename_i heq
      rw [heq] at hread
      contradiction
    · rename_i heq
      rw [heq] at hread
      cases hread
      rfl

end Reader

end MajiroScript
