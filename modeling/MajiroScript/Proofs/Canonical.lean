import MajiroScript.Instruction.Reader
import MajiroScript.Proofs.Fields
import MajiroScript.Proofs.Records
import MajiroScript.Proofs.Text.Lossless

/-! Canonical instructions: those that reading can give.  An instruction stands
ahead of a reader exactly when it is canonical and its record stands there, so
that reading and writing are inverse to each other on canonical instructions
and reading gives no others. -/
namespace MajiroScript

open Outcome
open Text (Encoding)

def Operand.IsNumber : Operand → Prop
  | ⟨width, false, .numeric value⟩ => value.toNat < 256 ^ width.toNat
  | _ => False

def Operand.IsBytes (stride : Nat) : Operand → Prop
  | ⟨declared, true, .raw bytes⟩ => bytes.length = stride * declared.toNat
  | _ => False

namespace Codec

/-- Text that is decoded from its own encoding, or bytes that are no text where
such bytes are kept, behind a length field that counts the bytes. -/
def IsText (codec : Codec) : Operand → Prop
  | ⟨declared, true, .text text⟩ =>
      ∃ bytes ∈ codec.encoding.encode text, bytes.length = declared.toNat ∧
        codec.encoding.decodeExact bytes = some text
  | ⟨declared, true, .raw bytes⟩ =>
      codec.strictText = false ∧ bytes.length = declared.toNat ∧
        codec.encoding.decodeExact bytes = none
  | _ => False

def CanonicalOperands (codec : Codec) (grammar : Grammar) (operands : List Operand) : Prop :=
  match grammar with
  | .bare => operands = []
  | .fixed widths =>
      operands.map Operand.declaredLength = widths ∧ ∀ operand ∈ operands, operand.IsNumber
  | .text => operands.length = 1 ∧ ∀ operand ∈ operands, codec.IsText operand
  | .raw => operands.length = 1 ∧ ∀ operand ∈ operands, operand.IsBytes 1
  | .table stride => operands.length = 1 ∧ ∀ operand ∈ operands, operand.IsBytes stride

/-- Whether an instruction has the operands that reading gives behind its
opcode. -/
def Canonical (codec : Codec) (instruction : Instruction) : Prop :=
  ∃ grammar ∈ instruction.opcode.grammar?,
    codec.CanonicalOperands grammar instruction.operands

end Codec

instance : DecidablePred Operand.IsNumber
  | ⟨width, false, .numeric value⟩ =>
      inferInstanceAs (Decidable (value.toNat < 256 ^ width.toNat))
  | ⟨_, false, .text _⟩ | ⟨_, false, .raw _⟩ | ⟨_, true, _⟩ => inferInstanceAs (Decidable False)

instance (stride : Nat) : DecidablePred (Operand.IsBytes stride)
  | ⟨declared, true, .raw bytes⟩ =>
      inferInstanceAs (Decidable (bytes.length = stride * declared.toNat))
  | ⟨_, true, .numeric _⟩ | ⟨_, true, .text _⟩ | ⟨_, false, _⟩ =>
      inferInstanceAs (Decidable False)

instance (codec : Codec) : DecidablePred codec.IsText
  | ⟨declared, true, .text text⟩ =>
      inferInstanceAs (Decidable (∃ bytes ∈ codec.encoding.encode text,
        bytes.length = declared.toNat ∧ codec.encoding.decodeExact bytes = some text))
  | ⟨declared, true, .raw bytes⟩ =>
      inferInstanceAs (Decidable (codec.strictText = false ∧ bytes.length = declared.toNat ∧
        codec.encoding.decodeExact bytes = none))
  | ⟨_, true, .numeric _⟩ | ⟨_, false, _⟩ => inferInstanceAs (Decidable False)

instance (codec : Codec) (grammar : Grammar) (operands : List Operand) :
    Decidable (codec.CanonicalOperands grammar operands) :=
  match grammar with
  | .bare => inferInstanceAs (Decidable (operands = []))
  | .fixed _ | .text | .raw | .table _ => inferInstanceAs (Decidable (_ ∧ ∀ _ ∈ operands, _))

instance (codec : Codec) : DecidablePred codec.Canonical := fun instruction =>
  inferInstanceAs (Decidable (∃ grammar ∈ instruction.opcode.grammar?,
    codec.CanonicalOperands grammar instruction.operands))

theorem Operand.isNumber_iff {operand : Operand} :
    operand.IsNumber ↔ ∃ width value, operand = .numeric width value ∧
      value.toNat < 256 ^ width.toNat := by
  constructor
  · intro h
    unfold IsNumber at h
    split at h
    · rename_i width value
      exact ⟨width, value, rfl, h⟩
    · contradiction
  · rintro ⟨width, value, rfl, hfits⟩
    exact hfits

theorem Operand.isBytes_iff {operand : Operand} {stride : Nat} :
    operand.IsBytes stride ↔ ∃ declared bytes, operand = .raw declared bytes ∧
      bytes.length = stride * declared.toNat := by
  constructor
  · intro h
    unfold IsBytes at h
    split at h
    · rename_i declared bytes
      exact ⟨declared, bytes, rfl, h⟩
    · contradiction
  · rintro ⟨declared, bytes, rfl, hlength⟩
    exact hlength

theorem Opcode.width_of_grammar? {opcode : Opcode} {widths : List UInt16}
    (h : opcode.grammar? = some (.fixed widths)) :
    ∀ width ∈ widths, 1 ≤ width.toNat ∧ width.toNat ≤ 4 := by
  revert h
  fun_cases grammar? opcode
  all_goals
    intro h
    cases h
  all_goals simp

namespace Codec

def IsSized (codec : Codec) (opcode : Opcode) (offset : Nat) (grammar : Grammar)
    (operand : Operand) : Prop :=
  ∃ declared bytes payload, operand = ⟨declared, true, payload⟩ ∧
    bytes.length = grammar.payloadLength declared ∧
    codec.sizedPayload opcode offset grammar bytes = .ok payload

section Sized

variable {codec : Codec} {opcode : Opcode} {offset : Nat} {grammar : Grammar}

theorem readSized_eq_ok_iff {cursor after : Cursor} {operands : List Operand} :
    codec.readSized opcode offset grammar cursor = (.ok operands, after) ↔
      ∃ declared bytes payload, operands = [⟨declared, true, payload⟩] ∧
        bytes.length = grammar.payloadLength declared ∧
        codec.sizedPayload opcode offset grammar bytes = .ok payload ∧
        cursor.Advances (Bytes.ofUInt16 declared ++ bytes) after := by
  constructor
  · intro h
    unfold readSized at h
    split at h
    · simp at h
    · rename_i declared behindLength hdeclared
      dsimp only at h
      split at h
      · simp at h
      · rename_i bytes behindBytes hbytes
        rw [Prod.mk.injEq, map_eq_ok_iff] at h
        obtain ⟨⟨payload, hpayload, rfl⟩, rfl⟩ := h
        obtain ⟨hlength, hadvances⟩ := Cursor.take?_eq_some_iff_advances.mp hbytes
        exact ⟨declared, bytes, payload, rfl, hlength, hpayload, Cursor.advances_append.mpr
          ⟨behindLength, Cursor.readUInt16?_eq_some_iff.mp hdeclared, hadvances⟩⟩
  · rintro ⟨declared, bytes, payload, rfl, hlength, hpayload, hadvances⟩
    obtain ⟨behindLength, hdeclared, hbytes⟩ := Cursor.advances_append.mp hadvances
    unfold readSized
    rw [Cursor.readUInt16?_eq_some_iff.mpr hdeclared]
    dsimp only
    rw [Cursor.take?_eq_some_iff_advances.mpr ⟨hlength, hbytes⟩]
    dsimp only
    rw [hpayload]
    rfl

theorem encode_of_sizedPayload {declared : UInt16} {bytes : Bytes} {payload : Payload}
    (hgrammar : opcode.grammar? = some grammar)
    (hlength : bytes.length = grammar.payloadLength declared)
    (hpayload : codec.sizedPayload opcode offset grammar bytes = .ok payload) :
    Operand.encode ⟨declared, true, payload⟩ codec.encoding opcode =
      .ok (Bytes.ofUInt16 declared ++ bytes) := by
  have hexpected : ∀ payload : Payload, bytes.length =
      Operand.expectedLength ⟨declared, true, payload⟩ opcode := by
    intro payload
    rw [Operand.expectedLength, hgrammar]
    exact hlength
  have hraw : Operand.encode ⟨declared, true, .raw bytes⟩ codec.encoding opcode =
      .ok (Bytes.ofUInt16 declared ++ bytes) :=
    Operand.encode_eq_ok_iff.mpr ⟨bytes, Operand.payloadBytes_raw_eq_ok_iff.mpr
      ⟨rfl, fun _ => hexpected _⟩, rfl⟩
  unfold sizedPayload at hpayload
  split at hpayload
  · unfold textPayload at hpayload
    split at hpayload
    · rename_i text htext
      cases hpayload
      refine Operand.encode_eq_ok_iff.mpr ⟨bytes, Operand.payloadBytes_text_eq_ok_iff.mpr ?_, rfl⟩
      exact ⟨Encoding.encode_of_decodeExact htext, fun _ => hexpected _⟩
    · split at hpayload
      · contradiction
      · cases hpayload
        exact hraw
  · cases hpayload
    exact hraw

theorem isSized_text (codec : Codec) (opcode : Opcode) (offset : Nat) {operand : Operand} :
    codec.IsSized opcode offset .text operand ↔ codec.IsText operand := by
  constructor
  · rintro ⟨declared, bytes, payload, rfl, hlength, hpayload⟩
    simp only [sizedPayload, textPayload] at hpayload
    split at hpayload
    · rename_i text htext
      cases hpayload
      exact ⟨bytes, Encoding.encode_of_decodeExact htext, hlength, htext⟩
    · rename_i hbytes
      split at hpayload
      · contradiction
      · rename_i hlenient
        cases hpayload
        exact ⟨by simpa using hlenient, hlength, hbytes⟩
  · intro h
    unfold IsText at h
    split at h
    · rename_i declared text
      obtain ⟨bytes, -, hlength, htext⟩ := h
      exact ⟨declared, bytes, .text text, rfl, hlength, by simp [sizedPayload, textPayload, htext]⟩
    · rename_i declared bytes
      obtain ⟨hlenient, hlength, hbytes⟩ := h
      exact ⟨declared, bytes, .raw bytes, rfl, hlength,
        by simp [sizedPayload, textPayload, hbytes, hlenient]⟩
    · contradiction

theorem isSized_iff_isBytes {stride : Nat} {operand : Operand}
    (hpayload : ∀ bytes, codec.sizedPayload opcode offset grammar bytes = .ok (.raw bytes))
    (hlength : ∀ declared, grammar.payloadLength declared = stride * declared.toNat) :
    codec.IsSized opcode offset grammar operand ↔ operand.IsBytes stride := by
  simp only [IsSized, Operand.isBytes_iff, hpayload, hlength]
  constructor
  · rintro ⟨declared, bytes, _, rfl, hbytes, ⟨⟩⟩
    exact ⟨declared, bytes, rfl, hbytes⟩
  · rintro ⟨declared, bytes, rfl, hbytes⟩
    exact ⟨declared, bytes, .raw bytes, rfl, hbytes, rfl⟩

theorem isSized_raw (codec : Codec) (opcode : Opcode) (offset : Nat) {operand : Operand} :
    codec.IsSized opcode offset .raw operand ↔ operand.IsBytes 1 := by
  apply isSized_iff_isBytes
  · intro bytes
    rfl
  · intro declared
    exact (Nat.one_mul _).symm

theorem isSized_table (codec : Codec) (opcode : Opcode) (offset : Nat) {stride : Nat}
    {operand : Operand} :
    codec.IsSized opcode offset (.table stride) operand ↔ operand.IsBytes stride := by
  apply isSized_iff_isBytes
  · intro bytes
    rfl
  · intro declared
    exact Nat.mul_comm _ _

theorem readSized_iff_isSized {cursor after : Cursor} {operands : List Operand}
    (hgrammar : opcode.grammar? = some grammar) :
    codec.readSized opcode offset grammar cursor = (.ok operands, after) ↔
      (operands.length = 1 ∧ ∀ operand ∈ operands, codec.IsSized opcode offset grammar operand) ∧
        ∃ fields : List Bytes,
          operands.map (·.encode codec.encoding opcode) = fields.map .ok ∧
            cursor.Advances fields.flatten after := by
  rw [readSized_eq_ok_iff]
  constructor
  · rintro ⟨declared, bytes, payload, rfl, hlength, hpayload, hadvances⟩
    refine ⟨⟨rfl, ?_⟩, [Bytes.ofUInt16 declared ++ bytes], ?_, by simpa using hadvances⟩
    · rintro _ (_ | ⟨_, ⟨⟩⟩)
      exact ⟨declared, bytes, payload, rfl, hlength, hpayload⟩
    · rw [List.map_singleton, List.map_singleton,
        encode_of_sizedPayload hgrammar hlength hpayload]
  · rintro ⟨⟨hone, hall⟩, fields, hfields, hadvances⟩
    obtain ⟨operand, rfl⟩ := List.length_eq_one_iff.mp hone
    obtain ⟨declared, bytes, payload, rfl, hlength, hpayload⟩ :=
      hall operand (List.mem_singleton_self operand)
    refine ⟨declared, bytes, payload, rfl, hlength, hpayload, ?_⟩
    rw [List.map_singleton, encode_of_sizedPayload hgrammar hlength hpayload] at hfields
    obtain ⟨field, rfl, hfield⟩ := List.map_eq_singleton_iff.mp hfields.symm
    cases hfield
    simpa using hadvances

theorem exists_encode_of_isSized {operand : Operand} (hgrammar : opcode.grammar? = some grammar)
    (h : codec.IsSized opcode offset grammar operand) :
    ∃ field, operand.encode codec.encoding opcode = .ok field := by
  obtain ⟨declared, bytes, payload, rfl, hlength, hpayload⟩ := h
  exact ⟨_, encode_of_sizedPayload hgrammar hlength hpayload⟩

end Sized

theorem numbers_iff_exists_values {widths : List UInt16} {operands : List Operand} :
    (operands.map Operand.declaredLength = widths ∧ ∀ operand ∈ operands, operand.IsNumber) ↔
      ∃ values, List.Forall₂ Bytes.Fits widths values ∧
        List.zipWith Operand.numeric widths values = operands := by
  constructor
  · rintro ⟨rfl, hnumbers⟩
    induction operands with
    | nil => exact ⟨[], .nil, rfl⟩
    | cons operand operands ih =>
        obtain ⟨hfirst, hothers⟩ := List.forall_mem_cons.mp hnumbers
        obtain ⟨width, value, rfl, hfits⟩ := Operand.isNumber_iff.mp hfirst
        obtain ⟨values, hall, hsame⟩ := ih hothers
        exact ⟨value :: values, .cons hfits hall, congrArg (Operand.numeric width value :: ·) hsame⟩
  · rintro ⟨values, hall, rfl⟩
    induction hall with
    | nil => simp
    | @cons width value widths values hfits hall ih =>
        refine ⟨congrArg (width :: ·) ih.1, ?_⟩
        rw [List.zipWith_cons_cons, List.forall_mem_cons]
        exact ⟨Operand.isNumber_iff.mpr ⟨width, value, rfl, hfits⟩, ih.2⟩

theorem readUInts?_iff_canonical {encoding : Encoding} {opcode : Opcode}
    {widths : List UInt16} (hwidths : ∀ width ∈ widths, 1 ≤ width.toNat ∧ width.toNat ≤ 4)
    {cursor after : Cursor} {operands : List Operand} :
    (∃ values, cursor.readUInts? widths = some (values, after) ∧
        List.zipWith Operand.numeric widths values = operands) ↔
      (operands.map Operand.declaredLength = widths ∧ ∀ operand ∈ operands, operand.IsNumber) ∧
        ∃ fields : List Bytes,
          operands.map (·.encode encoding opcode) = fields.map .ok ∧
            cursor.Advances fields.flatten after := by
  rw [numbers_iff_exists_values]
  simp only [Cursor.readUInts?_eq_some_iff fun width hmem => (hwidths width hmem).2]
  constructor
  · rintro ⟨values, ⟨hall, hadvances⟩, rfl⟩
    refine ⟨⟨values, hall, rfl⟩, _, ?_, hadvances⟩
    exact (Operand.map_encode_numeric_eq_ok_iff hwidths hall.length_eq.symm).mpr ⟨hall, rfl⟩
  · rintro ⟨⟨values, hall, rfl⟩, fields, hfields, hadvances⟩
    obtain ⟨-, rfl⟩ :=
      (Operand.map_encode_numeric_eq_ok_iff hwidths hall.length_eq.symm).mp hfields
    exact ⟨values, ⟨hall, hadvances⟩, rfl⟩

theorem readOperands_eq_ok_iff {codec : Codec} {opcode : Opcode} {offset : Nat}
    {grammar : Grammar} {cursor after : Cursor} {operands : List Operand}
    (hgrammar : opcode.grammar? = some grammar) :
    codec.readOperands opcode offset grammar cursor = (.ok operands, after) ↔
      codec.CanonicalOperands grammar operands ∧
        ∃ fields : List Bytes,
          operands.map (·.encode codec.encoding opcode) = fields.map .ok ∧
            cursor.Advances fields.flatten after := by
  cases grammar with
  | bare =>
      simp only [readOperands, CanonicalOperands, Prod.mk.injEq, Except.ok.injEq]
      constructor
      · rintro ⟨rfl, rfl⟩
        exact ⟨rfl, [], rfl, by simp⟩
      · rintro ⟨rfl, fields, hfields, hadvances⟩
        obtain rfl := List.map_eq_nil_iff.mp hfields.symm
        exact ⟨rfl, (Cursor.advances_nil.mp hadvances).symm⟩
  | fixed widths =>
      rw [CanonicalOperands,
        ← readUInts?_iff_canonical (Opcode.width_of_grammar? hgrammar)]
      simp only [readOperands]
      split
      · rename_i values last hvalues
        simp only [hvalues, Prod.mk.injEq, Except.ok.injEq, Option.some.injEq]
        constructor
        · rintro ⟨rfl, rfl⟩
          exact ⟨values, ⟨rfl, rfl⟩, rfl⟩
        · rintro ⟨_, ⟨rfl, rfl⟩, rfl⟩
          exact ⟨rfl, rfl⟩
      · rename_i hvalues
        simp [hvalues]
  | text =>
      simp only [CanonicalOperands, ← isSized_text codec opcode offset]
      exact readSized_iff_isSized hgrammar
  | raw =>
      simp only [CanonicalOperands, ← isSized_raw codec opcode offset]
      exact readSized_iff_isSized hgrammar
  | table stride =>
      simp only [CanonicalOperands, ← isSized_table codec opcode offset]
      exact readSized_iff_isSized hgrammar

theorem readInstruction_eq_ok_iff {codec : Codec} {opcode : Opcode} {offset : Nat}
    {cursor after : Cursor} {instruction : Instruction} :
    codec.readInstruction opcode offset cursor = (.ok instruction, after) ↔
      instruction.opcode = opcode ∧ codec.Canonical instruction ∧
        ∃ fields : List Bytes,
          instruction.operands.map (·.encode codec.encoding opcode) = fields.map .ok ∧
            cursor.Advances fields.flatten after := by
  unfold readInstruction
  split
  · rename_i hgrammar
    simp only [Prod.mk.injEq, reduceCtorEq, false_and, false_iff, not_and, Canonical]
    rintro rfl ⟨grammar, hmem, -⟩
    simp [hgrammar] at hmem
  · rename_i grammar hgrammar
    simp only [Prod.mk.injEq, map_eq_ok_iff, Canonical]
    constructor
    · rintro ⟨⟨operands, hoperands, rfl⟩, hafter⟩
      obtain ⟨hcanonical, hfields⟩ :=
        (readOperands_eq_ok_iff hgrammar).mp (Prod.ext hoperands hafter)
      exact ⟨rfl, ⟨grammar, hgrammar, hcanonical⟩, hfields⟩
    · rintro ⟨rfl, ⟨_, hmem, hcanonical⟩, hfields⟩
      cases hgrammar.symm.trans hmem
      have hread : codec.readOperands instruction.opcode offset grammar cursor =
          (.ok instruction.operands, after) :=
        (readOperands_eq_ok_iff hgrammar).mpr ⟨hcanonical, hfields⟩
      rw [hread]
      exact ⟨⟨instruction.operands, rfl, rfl⟩, rfl⟩

theorem exists_encode_operand {codec : Codec} {opcode : Opcode} {grammar : Grammar}
    {operands : List Operand} (hgrammar : opcode.grammar? = some grammar)
    (hcanonical : codec.CanonicalOperands grammar operands) :
    ∀ operand ∈ operands, ∃ field, operand.encode codec.encoding opcode = .ok field := by
  intro operand hmem
  cases grammar with
  | bare =>
      obtain rfl : operands = [] := hcanonical
      contradiction
  | fixed widths =>
      obtain ⟨rfl, hnumbers⟩ := hcanonical
      obtain ⟨width, value, rfl, hfits⟩ := Operand.isNumber_iff.mp (hnumbers operand hmem)
      have hwidth := Opcode.width_of_grammar? hgrammar width
        (List.mem_map_of_mem (f := Operand.declaredLength) hmem)
      exact ⟨_, Operand.encode_numeric_eq_ok_iff.mpr ⟨hwidth, hfits, rfl⟩⟩
  | text =>
      have hsized := (isSized_text codec opcode 0).mpr (hcanonical.2 operand hmem)
      exact exists_encode_of_isSized hgrammar hsized
  | raw =>
      have hsized := (isSized_raw codec opcode 0).mpr (hcanonical.2 operand hmem)
      exact exists_encode_of_isSized hgrammar hsized
  | table stride =>
      have hsized := (isSized_table codec opcode 0).mpr (hcanonical.2 operand hmem)
      exact exists_encode_of_isSized hgrammar hsized

theorem exists_encode_of_canonical {codec : Codec} {instruction : Instruction}
    (h : codec.Canonical instruction) : ∃ record, codec.encode instruction = .ok record := by
  obtain ⟨grammar, hgrammar, hcanonical⟩ := h
  obtain ⟨fields, hfields⟩ := exists_map_eq_ok (exists_encode_operand hgrammar hcanonical)
  exact ⟨_, encode_eq_ok_iff.mpr ⟨fields, hfields, rfl⟩⟩

theorem exists_encodeAll_of_canonical {codec : Codec} {instructions : List Instruction}
    (h : ∀ instruction ∈ instructions, codec.Canonical instruction) :
    ∃ bytes, codec.encodeAll instructions = .ok bytes := by
  induction instructions with
  | nil => exact ⟨[], encodeAll_nil codec⟩
  | cons instruction instructions ih =>
      obtain ⟨record, hrecord⟩ := exists_encode_of_canonical (h instruction List.mem_cons_self)
      obtain ⟨rest, hrest⟩ := ih fun instruction hmem => h instruction (List.mem_cons_of_mem _ hmem)
      exact ⟨record ++ rest, encodeAll_cons_eq_ok_iff.mpr ⟨record, rest, hrecord, hrest, rfl⟩⟩

end Codec

end MajiroScript
