import Mathlib.Algebra.GroupWithZero.Nat
import MajiroScript.Proofs.Writes

/-! Which instructions can be written, and what a writer says of the others.  It
names the first operand that has no bytes and the first check that fails for
it. -/
namespace MajiroScript

open Outcome
open Text (Encoding)

/-- Payload bytes that a length field stands for.  Behind an opcode that is not
known it counts single bytes. -/
def Opcode.announced (opcode : Opcode) (declared : UInt16) : Nat :=
  opcode.grammar?.elim declared.toNat (·.payloadLength declared)

namespace Operand

def content? (operand : Operand) (encoding : Encoding) : Option Bytes :=
  match operand.payload with
  | .numeric value => some (Bytes.ofNatLE operand.declaredLength.toNat value.toNat)
  | .text text => encoding.encode text
  | .raw bytes => some bytes

/-- The payload has bytes, and a length field in front of them counts them. -/
def Writable (operand : Operand) (encoding : Encoding) (opcode : Opcode) : Prop :=
  match operand.payload with
  | .numeric value =>
      (1 ≤ operand.declaredLength.toNat ∧ operand.declaredLength.toNat ≤ 4) ∧
        value.toNat < 256 ^ operand.declaredLength.toNat
  | .text text => ∃ bytes, encoding.encode text = some bytes ∧
      (operand.lengthEmbedded = true → bytes.length = opcode.announced operand.declaredLength)
  | .raw bytes =>
      operand.lengthEmbedded = true → bytes.length = opcode.announced operand.declaredLength

inductive Fails (encoding : Encoding) (opcode : Opcode) : Operand → OperandError → Prop where
  | width {width : UInt16} {embedded : Bool} {value : UInt32}
      (unsupported : width.toNat < 1 ∨ 4 < width.toNat) :
      Fails encoding opcode ⟨width, embedded, .numeric value⟩ (.unsupportedWidth width)
  | overflow {width : UInt16} {embedded : Bool} {value : UInt32}
      (supported : 1 ≤ width.toNat ∧ width.toNat ≤ 4) (large : 256 ^ width.toNat ≤ value.toNat) :
      Fails encoding opcode ⟨width, embedded, .numeric value⟩ (.overflow value width)
  | unencodable {declared : UInt16} {embedded : Bool} {text : String}
      (encode_eq : encoding.encode text = none) :
      Fails encoding opcode ⟨declared, embedded, .text text⟩ (.unencodable text encoding)
  | textLength {declared : UInt16} {text : String} {bytes : Bytes}
      (encode_eq : encoding.encode text = some bytes)
      (wrong : opcode.announced declared ≠ bytes.length) :
      Fails encoding opcode ⟨declared, true, .text text⟩
        (.lengthMismatch declared (opcode.announced declared) bytes.length)
  | rawLength {declared : UInt16} {bytes : Bytes}
      (wrong : opcode.announced declared ≠ bytes.length) :
      Fails encoding opcode ⟨declared, true, .raw bytes⟩
        (.lengthMismatch declared (opcode.announced declared) bytes.length)

variable {operand : Operand} {encoding : Encoding} {opcode : Opcode} {reason : OperandError}

theorem expectedLength_eq_announced (operand : Operand) (opcode : Opcode) :
    operand.expectedLength opcode = opcode.announced operand.declaredLength := by
  unfold expectedLength Opcode.announced
  cases opcode.grammar? with
  | none => rfl
  | some grammar => rfl

theorem payloadBytes_eq_ok_iff {bytes : Bytes} :
    operand.payloadBytes encoding opcode = .ok bytes ↔
      operand.Writable encoding opcode ∧ operand.content? encoding = some bytes := by
  obtain ⟨declared, embedded, payload⟩ := operand
  cases payload with
  | numeric value =>
      rw [payloadBytes_numeric_eq_ok_iff]
      simp only [Writable, content?, Option.some.injEq, and_assoc]
      rw [eq_comm (a := bytes)]
  | text text =>
      rw [payloadBytes_text_eq_ok_iff, expectedLength_eq_announced]
      simp only [Writable, content?]
      constructor
      · intro h
        exact ⟨⟨bytes, h⟩, h.1⟩
      · rintro ⟨⟨found, hfound, hlength⟩, hbytes⟩
        obtain rfl := Option.some.inj (hfound.symm.trans hbytes)
        exact ⟨hfound, hlength⟩
  | raw content =>
      rw [payloadBytes_raw_eq_ok_iff, expectedLength_eq_announced]
      simp only [Writable, content?, Option.some.injEq]
      constructor
      · rintro ⟨rfl, hlength⟩
        exact ⟨hlength, rfl⟩
      · rintro ⟨hlength, rfl⟩
        exact ⟨rfl, hlength⟩

theorem checkLength_eq_error_iff {bytes : Bytes} :
    operand.checkLength opcode bytes = .error reason ↔
      operand.lengthEmbedded = true ∧ opcode.announced operand.declaredLength ≠ bytes.length ∧
        reason = .lengthMismatch operand.declaredLength
          (opcode.announced operand.declaredLength) bytes.length := by
  rw [checkLength, expectedLength_eq_announced]
  split
  · rename_i hwrong
    simp [hwrong, eq_comm]
  · rename_i hright
    simp only [reduceCtorEq, false_iff]
    rintro ⟨hembedded, hwrong, -⟩
    exact hright ⟨hembedded, hwrong⟩

theorem fails_of_payloadBytes (h : operand.payloadBytes encoding opcode = .error reason) :
    operand.Fails encoding opcode reason := by
  obtain ⟨declared, embedded, payload⟩ := operand
  cases payload with
  | numeric value =>
      have hfits := shiftRight_eq_zero_iff value.toNat declared.toNat
      simp only [payloadBytes] at h
      split at h
      · cases h
        exact .width ‹_›
      · split at h
        · cases h
          exact .overflow (by omega) (by omega)
        · contradiction
  | text text =>
      simp only [payloadBytes] at h
      split at h
      · cases h
        exact .unencodable ‹_›
      · obtain ⟨rfl, hwrong, rfl⟩ := checkLength_eq_error_iff.mp h
        exact .textLength ‹_› hwrong
  | raw bytes =>
      obtain ⟨rfl, hwrong, rfl⟩ := checkLength_eq_error_iff.mp h
      exact .rawLength hwrong

theorem Fails.payloadBytes (h : operand.Fails encoding opcode reason) :
    operand.payloadBytes encoding opcode = .error reason := by
  cases h with
  | width hunsupported => simp only [Operand.payloadBytes, if_pos hunsupported]
  | @overflow width embedded value hsupported hlarge =>
      have hlost : value.toNat >>> (8 * width.toNat) ≠ 0 := by
        rw [Ne, shiftRight_eq_zero_iff]
        omega
      have hwidth : ¬ (width.toNat < 1 ∨ 4 < width.toNat) := by omega
      simp only [Operand.payloadBytes, if_neg hwidth, if_pos hlost]
  | unencodable hencode => simp only [Operand.payloadBytes, hencode]
  | textLength hencode hwrong =>
      simp only [Operand.payloadBytes, hencode]
      exact checkLength_eq_error_iff.mpr ⟨rfl, hwrong, rfl⟩
  | rawLength hwrong => exact checkLength_eq_error_iff.mpr ⟨rfl, hwrong, rfl⟩

theorem encode_eq_error_iff :
    operand.encode encoding opcode = .error reason ↔ operand.Fails encoding opcode reason := by
  rw [encode, map_eq_error_iff]
  exact ⟨fails_of_payloadBytes, Fails.payloadBytes⟩

theorem encode_eq_ok_iff_writable {field : Bytes} :
    operand.encode encoding opcode = .ok field ↔
      operand.Writable encoding opcode ∧ ∃ bytes, operand.content? encoding = some bytes ∧
        operand.lengthField ++ bytes = field := by
  simp only [encode_eq_ok_iff, payloadBytes_eq_ok_iff, and_assoc, exists_and_left]

theorem Writable.exists_encode (h : operand.Writable encoding opcode) :
    ∃ field, operand.encode encoding opcode = .ok field := by
  have hcontent : ∃ bytes, operand.content? encoding = some bytes := by
    obtain ⟨declared, embedded, payload⟩ := operand
    cases payload with
    | numeric value => exact ⟨_, rfl⟩
    | text text =>
        obtain ⟨bytes, hbytes, -⟩ := h
        exact ⟨bytes, hbytes⟩
    | raw bytes => exact ⟨bytes, rfl⟩
  obtain ⟨bytes, hbytes⟩ := hcontent
  exact ⟨_, encode_eq_ok_iff_writable.mpr ⟨h, bytes, hbytes, rfl⟩⟩

theorem encodeFrom_of_fails {index : Nat} {before : List Operand}
    (hbefore : ∀ earlier ∈ before, earlier.Writable encoding opcode)
    (hfails : operand.Fails encoding opcode reason) (behind : List Operand) :
    encodeFrom encoding opcode index (before ++ operand :: behind) =
      .error ⟨opcode, index + before.length, reason⟩ := by
  induction before generalizing index with
  | nil =>
      rw [List.nil_append, encodeFrom_cons, encode_eq_error_iff.mpr hfails]
      rfl
  | cons earlier before ih =>
      -- The operand is written and the index moves on, so its sum with the count stays.
      obtain ⟨field, hfield⟩ := (hbefore earlier List.mem_cons_self).exists_encode
      have hothers := fun other hmem => hbefore other (List.mem_cons_of_mem _ hmem)
      rw [List.cons_append, encodeFrom_cons, hfield, ih hothers, List.length_cons,
        Nat.add_right_comm]
      rfl

theorem exists_fails_of_encodeFrom {index : Nat} {operands : List Operand} {error : EncodeError}
    (h : encodeFrom encoding opcode index operands = .error error) :
    error.opcode = opcode ∧ ∃ before operand behind, operands = before ++ operand :: behind ∧
      error.index = index + before.length ∧
      (∀ earlier ∈ before, earlier.Writable encoding opcode) ∧
      operand.Fails encoding opcode error.reason := by
  induction operands generalizing index with
  | nil => cases h
  | cons first operands ih =>
      rw [encodeFrom_cons] at h
      cases hfirst : first.encode encoding opcode with
      | error reason =>
          rw [hfirst] at h
          cases h
          exact ⟨rfl, [], first, operands, rfl, rfl, by simp, encode_eq_error_iff.mp hfirst⟩
      | ok field =>
          simp only [hfirst, map_eq_error_iff] at h
          obtain ⟨hopcode, before, operand, behind, rfl, hindex, hbefore, hfails⟩ := ih h
          refine ⟨hopcode, first :: before, operand, behind, rfl, ?_, ?_, hfails⟩
          · rw [hindex, List.length_cons]
            omega
          · intro earlier hmem
            rcases List.mem_cons.mp hmem with rfl | hmem
            · exact (encode_eq_ok_iff_writable.mp hfirst).1
            · exact hbefore earlier hmem

theorem map_encode_eq_ok_iff {operands : List Operand} {fields : List Bytes} :
    operands.map (·.encode encoding opcode) = fields.map .ok ↔
      (∀ operand ∈ operands, operand.Writable encoding opcode) ∧
        ∃ payloads, operands.map (·.content? encoding) = payloads.map some ∧
          List.zipWith (fun operand payload => operand.lengthField ++ payload) operands payloads =
            fields := by
  induction operands generalizing fields with
  | nil =>
      constructor
      · intro h
        obtain rfl := List.map_eq_nil_iff.mp h.symm
        exact ⟨by simp, [], rfl, rfl⟩
      · rintro ⟨-, payloads, -, rfl⟩
        rfl
  | cons operand operands ih =>
      constructor
      · intro h
        obtain ⟨field, fields, rfl, hfield, hfields⟩ := List.map_eq_cons_iff.mp h.symm
        obtain ⟨hwritable, bytes, hbytes, rfl⟩ := encode_eq_ok_iff_writable.mp hfield.symm
        obtain ⟨hothers, payloads, hpayloads, rfl⟩ := ih.mp hfields.symm
        refine ⟨List.forall_mem_cons.mpr ⟨hwritable, hothers⟩, bytes :: payloads, ?_, rfl⟩
        rw [List.map_cons, hbytes, hpayloads, List.map_cons]
      · rintro ⟨hall, payloads, hpayloads, rfl⟩
        obtain ⟨bytes, payloads, rfl, hbytes, hothers⟩ := List.map_eq_cons_iff.mp hpayloads.symm
        obtain ⟨hwritable, hrest⟩ := List.forall_mem_cons.mp hall
        rw [List.zipWith_cons_cons, List.map_cons, List.map_cons,
          encode_eq_ok_iff_writable.mpr ⟨hwritable, bytes, hbytes.symm, rfl⟩,
          ih.mpr ⟨hrest, payloads, hothers.symm, rfl⟩]

theorem length_lengthField (operand : Operand) :
    operand.lengthField.length = if operand.lengthEmbedded then 2 else 0 := by
  unfold lengthField
  split
  · exact Bytes.length_ofUInt16 _
  · rfl

end Operand

structure EncodeError.Diagnoses (error : EncodeError) (encoding : Encoding)
    (instruction : Instruction) : Prop where
  opcode_eq : error.opcode = instruction.opcode
  first : ∃ before operand behind, instruction.operands = before ++ operand :: behind ∧
    error.index = before.length ∧
    (∀ earlier ∈ before, earlier.Writable encoding instruction.opcode) ∧
    operand.Fails encoding instruction.opcode error.reason

namespace Codec

variable {codec : Codec} {instruction : Instruction}

theorem exists_encode_iff :
    (∃ record, codec.encode instruction = .ok record) ↔
      ∀ operand ∈ instruction.operands,
        operand.Writable codec.encoding instruction.opcode := by
  simp only [encode_eq_ok_iff]
  constructor
  · rintro ⟨record, fields, hfields, -⟩
    exact (Operand.map_encode_eq_ok_iff.mp hfields).1
  · intro hall
    obtain ⟨fields, hfields⟩ :=
      exists_map_eq_ok fun operand hmem => (hall operand hmem).exists_encode
    exact ⟨_, fields, hfields, rfl⟩

theorem encode_eq_error_iff {error : EncodeError} :
    codec.encode instruction = .error error ↔ error.Diagnoses codec.encoding instruction := by
  rw [encode_eq_encodeFrom, map_eq_error_iff]
  constructor
  · intro h
    obtain ⟨hopcode, hfirst⟩ := Operand.exists_fails_of_encodeFrom h
    simp only [Nat.zero_add] at hfirst
    exact ⟨hopcode, hfirst⟩
  · rintro ⟨hopcode, before, operand, behind, hoperands, hindex, hbefore, hfails⟩
    rw [hoperands, Operand.encodeFrom_of_fails hbefore hfails, Nat.zero_add, ← hopcode, ← hindex]

end Codec

namespace Writer

structure Verdict (writer : Writer) (instruction : Instruction) : Prop where
  ok_iff : (writer.write instruction).1 = .ok () ↔
    ∀ operand ∈ instruction.operands,
      operand.Writable writer.codec.encoding instruction.opcode
  record : (writer.write instruction).1 = .ok () →
    ∃ payloads record, instruction.operands.map (·.content? writer.codec.encoding) =
        payloads.map some ∧
      record = Bytes.ofUInt16 instruction.opcode ++ (List.zipWith
        (fun operand payload =>
          (if operand.lengthEmbedded then Bytes.ofUInt16 operand.declaredLength else []) ++ payload)
        instruction.operands payloads).flatten ∧
      record.length = 2 + (List.zipWith
        (fun operand payload => (if operand.lengthEmbedded then 2 else 0) + payload.length)
        instruction.operands payloads).sum ∧
      (writer.write instruction).2.output = writer.output ++ record
  error_iff : ∀ error, (writer.write instruction).1 = .error error ↔
    error.Diagnoses writer.codec.encoding instruction
  never_tooLong : ∀ error length, (writer.write instruction).1 = .error error →
    error.reason ≠ .tooLong length

theorem length_record (operands : List Operand) (payloads : List Bytes) :
    (List.zipWith (fun operand payload => operand.lengthField ++ payload) operands
        payloads).flatten.length =
      (List.zipWith
        (fun operand payload => (if operand.lengthEmbedded then 2 else 0) + payload.length)
        operands payloads).sum := by
  rw [List.length_flatten, List.map_zipWith]
  simp only [List.length_append, Operand.length_lengthField]

theorem exists_record {writer : Writer} {instruction : Instruction}
    (h : (writer.write instruction).1 = .ok ()) :
    ∃ record, writer.codec.encode instruction = .ok record ∧
      (writer.write instruction).2.output = writer.output ++ record := by
  obtain ⟨error, staged, -, hwrite⟩ | ⟨record, hencode, hwrite⟩ := writer.write_cases instruction
  · simp [hwrite] at h
  · exact ⟨record, hencode, by simp [hwrite, output, commit]⟩

/-- A writer takes exactly the instructions whose operands can all be written,
and names the first operand of any other one that cannot. -/
theorem verdict_write (writer : Writer) (instruction : Instruction) :
    writer.Verdict instruction where
  ok_iff := by
    rw [result_write, map_eq_ok_iff, ← Codec.exists_encode_iff]
    simp
  record h := by
    obtain ⟨record, hencode, houtput⟩ := exists_record h
    obtain ⟨fields, hfields, rfl⟩ := Codec.encode_eq_ok_iff.mp hencode
    obtain ⟨-, payloads, hpayloads, rfl⟩ := Operand.map_encode_eq_ok_iff.mp hfields
    refine ⟨payloads, _, hpayloads, rfl, ?_, houtput⟩
    rw [List.length_append, Bytes.length_ofUInt16]
    exact congrArg (2 + ·) (length_record instruction.operands payloads)
  error_iff error := by
    rw [result_write, map_eq_error_iff, Codec.encode_eq_error_iff]
  never_tooLong error length h := by
    rw [result_write, map_eq_error_iff, Codec.encode_eq_error_iff] at h
    obtain ⟨before, operand, behind, -, -, -, hfails⟩ := h.first
    intro hreason
    rw [hreason] at hfails
    cases hfails

-- The opcode is not known, so its length field counts bytes.
example :
    (write { codec := ⟨.utf8, false⟩ }
        ⟨0x999, [.numeric 3 0xFFFFFF, ⟨2, true, .raw [1]⟩, .numeric 0 0]⟩).1 =
      .error ⟨0x999, 1, .lengthMismatch 2 2 1⟩ := by
  decide +kernel

end Writer
end MajiroScript
