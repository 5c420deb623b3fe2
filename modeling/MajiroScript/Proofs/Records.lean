import Mathlib.Algebra.Group.Nat.Defs
import MajiroScript.Instruction.Writer
import MajiroScript.Proofs.Fields
import MajiroScript.Proofs.Outcome

/-! When writing succeeds and what it writes: an operand, the record of an
instruction, and the records of a script one behind the other. -/
namespace MajiroScript

open Outcome
open Text (Encoding)

namespace Operand

theorem shiftRight_eq_zero_iff (value width : Nat) :
    value >>> (8 * width) = 0 ↔ value < 256 ^ width := by
  rw [Nat.shiftRight_eq_div_pow, Nat.div_eq_zero_iff_lt (Nat.two_pow_pos _), Nat.pow_mul]

theorem checkLength_eq_ok_iff {operand : Operand} {opcode : Opcode} {bytes result : Bytes} :
    operand.checkLength opcode bytes = .ok result ↔
      (operand.lengthEmbedded = true → bytes.length = operand.expectedLength opcode) ∧
        result = bytes := by
  unfold checkLength
  split
  · rename_i hwrong
    simp only [reduceCtorEq, false_iff, not_and]
    intro hright
    exact absurd (hright hwrong.1).symm hwrong.2
  · rename_i hright
    rw [Except.ok.injEq]
    constructor
    · rintro rfl
      refine ⟨fun hembedded => Decidable.byContradiction fun hwrong => ?_, rfl⟩
      exact hright ⟨hembedded, Ne.symm hwrong⟩
    · rintro ⟨-, rfl⟩
      rfl

theorem payloadBytes_numeric_eq_ok_iff {width : UInt16} {embedded : Bool} {value : UInt32}
    {encoding : Encoding} {opcode : Opcode} {bytes : Bytes} :
    payloadBytes ⟨width, embedded, .numeric value⟩ encoding opcode = .ok bytes ↔
      (1 ≤ width.toNat ∧ width.toNat ≤ 4) ∧ value.toNat < 256 ^ width.toNat ∧
        bytes = Bytes.ofNatLE width.toNat value.toNat := by
  have hfits := shiftRight_eq_zero_iff value.toNat width.toNat
  simp only [payloadBytes]
  split
  · simp only [reduceCtorEq, false_iff]
    omega
  · split
    · simp only [reduceCtorEq, false_iff]
      omega
    · rw [Except.ok.injEq, eq_comm]
      exact ⟨fun h => ⟨by omega, by omega, h⟩, fun h => h.2.2⟩

theorem payloadBytes_text_eq_ok_iff {declared : UInt16} {embedded : Bool} {text : String}
    {encoding : Encoding} {opcode : Opcode} {bytes : Bytes} :
    payloadBytes ⟨declared, embedded, .text text⟩ encoding opcode = .ok bytes ↔
      encoding.encode text = some bytes ∧
        (embedded = true → bytes.length =
          expectedLength ⟨declared, embedded, .text text⟩ opcode) := by
  simp only [payloadBytes]
  split
  · rename_i hencode
    simp [hencode]
  · rename_i code hencode
    rw [checkLength_eq_ok_iff, hencode, Option.some.injEq]
    constructor
    · rintro ⟨hlength, rfl⟩
      exact ⟨rfl, hlength⟩
    · rintro ⟨rfl, hlength⟩
      exact ⟨hlength, rfl⟩

theorem payloadBytes_raw_eq_ok_iff {declared : UInt16} {embedded : Bool} {content : Bytes}
    {encoding : Encoding} {opcode : Opcode} {bytes : Bytes} :
    payloadBytes ⟨declared, embedded, .raw content⟩ encoding opcode = .ok bytes ↔
      content = bytes ∧ (embedded = true → bytes.length =
        expectedLength ⟨declared, embedded, .raw content⟩ opcode) := by
  simp only [payloadBytes]
  rw [checkLength_eq_ok_iff]
  constructor
  · rintro ⟨hlength, rfl⟩
    exact ⟨rfl, hlength⟩
  · rintro ⟨rfl, hlength⟩
    exact ⟨hlength, rfl⟩

theorem encode_eq_ok_iff {operand : Operand} {encoding : Encoding} {opcode : Opcode}
    {field : Bytes} :
    operand.encode encoding opcode = .ok field ↔
      ∃ bytes, operand.payloadBytes encoding opcode = .ok bytes ∧
        operand.lengthField ++ bytes = field :=
  map_eq_ok_iff

theorem encode_numeric_eq_ok_iff {width : UInt16} {value : UInt32} {encoding : Encoding}
    {opcode : Opcode} {field : Bytes} :
    (numeric width value).encode encoding opcode = .ok field ↔
      (1 ≤ width.toNat ∧ width.toNat ≤ 4) ∧ value.toNat < 256 ^ width.toNat ∧
        field = Bytes.ofNatLE width.toNat value.toNat := by
  simp [encode_eq_ok_iff, numeric, payloadBytes_numeric_eq_ok_iff, lengthField]

theorem map_encode_numeric_eq_ok_iff {widths : List UInt16} {values : List UInt32}
    (hwidths : ∀ width ∈ widths, 1 ≤ width.toNat ∧ width.toNat ≤ 4)
    (hlength : values.length = widths.length) {encoding : Encoding} {opcode : Opcode}
    {fields : List Bytes} :
    (List.zipWith numeric widths values).map (·.encode encoding opcode) = fields.map .ok ↔
      List.Forall₂ Bytes.Fits widths values ∧
        fields = List.zipWith (fun width value => Bytes.ofNatLE width.toNat value.toNat)
          widths values := by
  induction widths generalizing values fields with
  | nil =>
      obtain rfl := List.eq_nil_of_length_eq_zero hlength
      simp
  | cons width widths ih =>
      obtain ⟨value, values, rfl⟩ := List.exists_cons_of_length_eq_add_one hlength
      have hwidth := hwidths width List.mem_cons_self
      have htail : ∀ width ∈ widths, 1 ≤ width.toNat ∧ width.toNat ≤ 4 :=
        fun width hmem => hwidths width (List.mem_cons_of_mem _ hmem)
      cases fields with
      | nil => simp
      | cons field fields =>
          simp only [List.zipWith_cons_cons, List.map_cons, List.cons.injEq,
            ih htail (Nat.succ.inj hlength), encode_numeric_eq_ok_iff, List.forall₂_cons]
          constructor
          · rintro ⟨⟨-, hfits, rfl⟩, hall, rfl⟩
            exact ⟨⟨hfits, hall⟩, rfl, rfl⟩
          · rintro ⟨⟨hfits, hall⟩, rfl, rfl⟩
            exact ⟨⟨hwidth, hfits, rfl⟩, hall, rfl⟩

theorem text_eq_ok_iff {text : String} {encoding : Encoding} {operand : Operand} :
    Operand.text text encoding = .ok operand ↔
      ∃ bytes, encoding.encode text = some bytes ∧ bytes.length < 0x10000 ∧
        operand = ⟨bytes.length.toUInt16, true, .text text⟩ := by
  unfold Operand.text
  split
  · rename_i hencode
    simp [hencode]
  · rename_i bytes hencode
    simp only [hencode, Option.some.injEq, exists_eq_left']
    split
    · rename_i hshort
      simp [hshort, eq_comm]
    · rename_i hlong
      simp [hlong]

end Operand

namespace Codec

theorem map_encode_zipIdx {encoding : Encoding} {opcode : Opcode} {operands : List Operand}
    {start : Nat} {fields : List Bytes} :
    (operands.zipIdx start).map (fun entry =>
        (entry.1.encode encoding opcode).mapError (EncodeError.mk opcode entry.2)) =
          fields.map .ok ↔
      operands.map (·.encode encoding opcode) = fields.map .ok := by
  induction operands generalizing start fields with
  | nil => simp
  | cons operand operands ih =>
      cases fields with
      | nil => simp
      | cons field fields =>
          simp only [List.zipIdx_cons, List.map_cons, List.cons.injEq, mapError_eq_ok_iff, ih]

theorem encode_eq_ok_iff {codec : Codec} {instruction : Instruction} {record : Bytes} :
    codec.encode instruction = .ok record ↔
      ∃ fields : List Bytes,
        instruction.operands.map (·.encode codec.encoding instruction.opcode) =
          fields.map .ok ∧
        Bytes.ofUInt16 instruction.opcode ++ fields.flatten = record := by
  simp only [encode, bind_eq_ok_iff, pure_eq_ok_iff, mapM_eq_ok_iff, map_encode_zipIdx]

@[simp] theorem encodeAll_nil (codec : Codec) : codec.encodeAll [] = .ok [] := rfl

theorem encodeAll_cons_eq_ok_iff {codec : Codec} {instruction : Instruction}
    {instructions : List Instruction} {bytes : Bytes} :
    codec.encodeAll (instruction :: instructions) = .ok bytes ↔
      ∃ record rest, codec.encode instruction = .ok record ∧
        codec.encodeAll instructions = .ok rest ∧ record ++ rest = bytes := by
  simp only [encodeAll, List.mapM_cons, bind_eq_ok_iff, pure_eq_ok_iff]
  constructor
  · rintro ⟨_, ⟨record, hrecord, records, hrecords, rfl⟩, rfl⟩
    exact ⟨record, records.flatten, hrecord, ⟨records, hrecords, rfl⟩, rfl⟩
  · rintro ⟨record, _, hrecord, ⟨records, hrecords, rfl⟩, rfl⟩
    exact ⟨record :: records, ⟨record, hrecord, records, hrecords, rfl⟩, rfl⟩

end Codec

end MajiroScript
