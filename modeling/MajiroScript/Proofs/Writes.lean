import MajiroScript.Proofs.Records

/-! A writer that is given one instruction after another.  Each of them is
written as it would be alone or not at all, so that a failing one leaves no
trace in the output, in the counts and in what is written behind it. -/
namespace MajiroScript

open Outcome
open Text (Encoding)

def Operand.encodeFrom (encoding : Encoding) (opcode : Opcode) (index : Nat)
    (operands : List Operand) : Except EncodeError Bytes :=
  ((operands.zipIdx index).mapM fun (entry : Operand × Nat) =>
    (entry.1.encode encoding opcode).mapError (EncodeError.mk opcode entry.2)).map List.flatten

theorem Operand.encodeFrom_cons (encoding : Encoding) (opcode : Opcode) (index : Nat)
    (operand : Operand) (operands : List Operand) :
    encodeFrom encoding opcode index (operand :: operands) =
      match operand.encode encoding opcode with
      | .error reason => .error ⟨opcode, index, reason⟩
      | .ok field => (encodeFrom encoding opcode (index + 1) operands).map (field ++ ·) := by
  unfold encodeFrom
  rw [List.zipIdx_cons]
  cases hfield : operand.encode encoding opcode with
  | error reason =>
      rw [mapM_cons_of_error (by rw [hfield]; rfl)]
      rfl
  | ok field =>
      dsimp only
      rw [mapM_cons_of_ok (by rw [hfield]; rfl), map_map, map_map]
      rfl

theorem Codec.encode_eq_encodeFrom (codec : Codec) (instruction : Instruction) :
    codec.encode instruction =
      (Operand.encodeFrom codec.encoding instruction.opcode 0 instruction.operands).map
        (Bytes.ofUInt16 instruction.opcode ++ ·) := by
  unfold encode Operand.encodeFrom
  rw [bind_pure_eq_map, map_map]
  rfl

namespace Writer

@[simp] theorem stage_stage (writer : Writer) (first second : Bytes) :
    (writer.stage first).stage second = writer.stage (first ++ second) := by
  simp [stage, List.append_assoc]

/-- How staging ends: all that is encoded has been added, or some bytes of it
before the error. -/
inductive Stages (writer : Writer) : Except ε Bytes → Except ε Unit × Writer → Prop where
  | complete (bytes : Bytes) : Stages writer (.ok bytes) (.ok (), writer.stage bytes)
  | broken (error : ε) (bytes : Bytes) :
      Stages writer (.error error) (.error error, writer.stage bytes)

theorem stages_stageOperand (writer : Writer) (opcode : Opcode) (operand : Operand) :
    writer.Stages (operand.encode writer.codec.encoding opcode)
      (writer.stageOperand opcode operand) := by
  unfold stageOperand Operand.encode
  cases operand.payloadBytes writer.codec.encoding opcode with
  | error reason => exact .broken reason operand.lengthField
  | ok bytes =>
      dsimp only
      rw [stage_stage]
      exact .complete (operand.lengthField ++ bytes)

theorem stages_stageOperands (writer : Writer) (opcode : Opcode) (index : Nat)
    (operands : List Operand) :
    writer.Stages (Operand.encodeFrom writer.codec.encoding opcode index operands)
      (writer.stageOperands opcode index operands) := by
  induction operands generalizing writer index with
  | nil =>
      have h : Stages writer (.ok [] : Except EncodeError Bytes) (.ok (), writer.stage []) :=
        .complete []
      rw [stage, List.append_nil] at h
      exact h
  | cons operand operands ih =>
      have hfirst := writer.stages_stageOperand opcode operand
      rw [Operand.encodeFrom_cons, stageOperands]
      generalize operand.encode writer.codec.encoding opcode = encoded at hfirst ⊢
      generalize writer.stageOperand opcode operand = result at hfirst ⊢
      cases hfirst with
      | broken reason bytes => exact .broken _ bytes
      | complete field =>
          have hothers := ih (writer.stage field) (index + 1)
          dsimp only
          rw [show (writer.stage field).codec = writer.codec from rfl] at hothers
          generalize Operand.encodeFrom writer.codec.encoding opcode (index + 1) operands = encoded
            at hothers ⊢
          generalize (writer.stage field).stageOperands opcode (index + 1) operands = result
            at hothers ⊢
          cases hothers with
          | broken error bytes =>
              rw [stage_stage]
              exact .broken error _
          | complete fields =>
              rw [stage_stage]
              exact .complete (field ++ fields)

/-- What a call can do.  Whatever was staged before plays no part. -/
theorem write_cases (writer : Writer) (instruction : Instruction) :
    (∃ error staged, writer.codec.encode instruction = .error error ∧
      writer.write instruction = (.error error, { writer with staged })) ∨
    (∃ record, writer.codec.encode instruction = .ok record ∧
      writer.write instruction = (.ok (), commit { writer with staged := record })) := by
  rw [Codec.encode_eq_encodeFrom, write]
  have hstages := stages_stageOperands
    { writer with staged := [] ++ Bytes.ofUInt16 instruction.opcode }
    instruction.opcode 0 instruction.operands
  dsimp only [stage]
  dsimp only at hstages
  generalize Operand.encodeFrom _ _ _ _ = encoded at hstages ⊢
  generalize stageOperands _ _ _ _ = result at hstages ⊢
  cases hstages with
  | broken error bytes => exact .inl ⟨error, _, rfl, rfl⟩
  | complete bytes => exact .inr ⟨_, rfl, rfl⟩

theorem codec_write (writer : Writer) (instruction : Instruction) :
    (writer.write instruction).2.codec = writer.codec := by
  obtain ⟨error, staged, -, hwrite⟩ | ⟨record, -, hwrite⟩ := writer.write_cases instruction
  · rw [hwrite]
  · rw [hwrite]
    rfl

theorem result_write (writer : Writer) (instruction : Instruction) :
    (writer.write instruction).1 = (writer.codec.encode instruction).map fun _ => () := by
  obtain ⟨error, staged, hencode, hwrite⟩ | ⟨record, hencode, hwrite⟩ :=
    writer.write_cases instruction
  · rw [hwrite, hencode]
    rfl
  · rw [hwrite, hencode]
    rfl

theorem bytesWritten_write {writer : Writer} (h : writer.bytesWritten = writer.output.length)
    (instruction : Instruction) :
    (writer.write instruction).2.bytesWritten = (writer.write instruction).2.output.length := by
  obtain ⟨error, staged, -, hwrite⟩ | ⟨record, -, hwrite⟩ := writer.write_cases instruction
  · rw [hwrite]
    exact h
  · rw [hwrite]
    simp only [commit, output, List.reverse_cons, List.flatten_append, List.length_append,
      List.flatten_singleton]
    rw [h, output]

theorem instructionsWritten_write (writer : Writer) (instruction : Instruction) :
    (writer.write instruction).2.instructionsWritten =
      writer.instructionsWritten + if (writer.write instruction).1.isOk then 1 else 0 := by
  obtain ⟨error, staged, -, hwrite⟩ | ⟨record, -, hwrite⟩ := writer.write_cases instruction
  · rw [hwrite]
    rfl
  · rw [hwrite]
    rfl

theorem write_of_error {writer : Writer} {instruction : Instruction} {error : EncodeError}
    (h : (writer.write instruction).1 = .error error) :
    ∃ staged, (writer.write instruction).2 = { writer with staged } := by
  obtain ⟨error, staged, -, hwrite⟩ | ⟨record, -, hwrite⟩ := writer.write_cases instruction
  · exact ⟨staged, by rw [hwrite]⟩
  · simp [hwrite] at h

def writeEach (writer : Writer) : List Instruction → List (Except EncodeError Unit) × Writer
  | [] => ([], writer)
  | instruction :: instructions =>
      let (result, after) := writer.write instruction
      let (results, last) := after.writeEach instructions
      (result :: results, last)

theorem writeEach_cons (writer : Writer) (instruction : Instruction)
    (instructions : List Instruction) :
    writer.writeEach (instruction :: instructions) =
      ((writer.write instruction).1 :: ((writer.write instruction).2.writeEach instructions).1,
        ((writer.write instruction).2.writeEach instructions).2) := rfl

theorem writeEach_append (writer : Writer) (first second : List Instruction) :
    writer.writeEach (first ++ second) =
      ((writer.writeEach first).1 ++ ((writer.writeEach first).2.writeEach second).1,
        ((writer.writeEach first).2.writeEach second).2) := by
  induction first generalizing writer with
  | nil => rfl
  | cons instruction first ih =>
      rw [List.cons_append, writeEach_cons, writeEach_cons, ih]
      rfl

theorem results_writeEach (writer : Writer) (instructions : List Instruction) :
    (writer.writeEach instructions).1 =
      instructions.map fun instruction => (writer.codec.encode instruction).map fun _ => () := by
  induction instructions generalizing writer with
  | nil => rfl
  | cons instruction instructions ih =>
      rw [writeEach_cons, List.map_cons, ih, codec_write, result_write]

theorem output_writeEach (writer : Writer) (instructions : List Instruction) :
    (writer.writeEach instructions).2.output =
      writer.output ++ (instructions.filterMap fun instruction =>
        (writer.codec.encode instruction).toOption).flatten := by
  induction instructions generalizing writer with
  | nil => simp [writeEach]
  | cons instruction instructions ih =>
      rw [writeEach_cons, ih, codec_write, List.filterMap_cons]
      obtain ⟨error, staged, hencode, hwrite⟩ | ⟨record, hencode, hwrite⟩ :=
        writer.write_cases instruction
      · rw [hwrite, hencode]
        rfl
      · rw [hwrite, hencode]
        simp [output, commit, Except.toOption]

theorem writeEach_staged (writer : Writer) (staged : Bytes) (instructions : List Instruction) :
    (writeEach { writer with staged } instructions).1 = (writer.writeEach instructions).1 ∧
      (writeEach { writer with staged } instructions).2.output =
        (writer.writeEach instructions).2.output := by
  constructor
  · rw [results_writeEach, results_writeEach]
  · rw [output_writeEach, output_writeEach]
    rfl

theorem bytesWritten_writeEach {writer : Writer} (h : writer.bytesWritten = writer.output.length)
    (instructions : List Instruction) :
    (writer.writeEach instructions).2.bytesWritten =
      (writer.writeEach instructions).2.output.length := by
  induction instructions generalizing writer with
  | nil => exact h
  | cons instruction instructions ih => exact ih (bytesWritten_write h instruction)

theorem instructionsWritten_writeEach (writer : Writer) (instructions : List Instruction) :
    (writer.writeEach instructions).2.instructionsWritten =
      writer.instructionsWritten + (writer.writeEach instructions).1.countP Except.isOk := by
  induction instructions generalizing writer with
  | nil => rfl
  | cons instruction instructions ih =>
      rw [writeEach_cons, ih, instructionsWritten_write, List.countP_cons, Nat.add_right_comm,
        Nat.add_assoc]

end Writer

theorem Codec.encodeAll_eq_firstError? (codec : Codec) (instructions : List Instruction) :
    codec.encodeAll instructions =
      match firstError? (instructions.map codec.encode) with
      | some error => .error error
      | none => .ok (instructions.filterMap fun instruction =>
          (codec.encode instruction).toOption).flatten := by
  rw [encodeAll, mapM_eq_firstError?]
  cases firstError? (instructions.map codec.encode) with
  | none => rfl
  | some error => rfl

namespace Writer

/-- How a new writer treats instructions that are given to it one by one. -/
structure Atomic (codec : Codec) (instructions : List Instruction) : Prop where
  results_eq : (writeEach { codec } instructions).1 =
    instructions.map fun instruction => (write { codec } instruction).1
  output_eq : (writeEach { codec } instructions).2.output =
    ((instructions.filter fun instruction => (write { codec } instruction).1.isOk).map
      fun instruction => (write { codec } instruction).2.output).flatten
  steps_eq : ∀ before behind, before ++ behind = instructions →
    writeEach { codec } instructions =
      ((writeEach { codec } before).1 ++ (writeEach (writeEach { codec } before).2 behind).1,
        (writeEach (writeEach { codec } before).2 behind).2)
  counts : ∀ before, before <+: instructions →
    (writeEach { codec } before).2.bytesWritten =
      (writeEach { codec } before).2.output.length ∧
    (writeEach { codec } before).2.instructionsWritten =
      (writeEach { codec } before).1.countP Except.isOk
  failure : ∀ before instruction behind error, before ++ instruction :: behind = instructions →
    (write (writeEach { codec } before).2 instruction).1 = .error error →
      let writer := (writeEach { codec } before).2
      let after := (writer.write instruction).2
      after.output = writer.output ∧ after.bytesWritten = writer.bytesWritten ∧
        after.instructionsWritten = writer.instructionsWritten ∧
        (after.writeEach behind).1 = (writer.writeEach behind).1 ∧
        (after.writeEach behind).2.output = (writer.writeEach behind).2.output
  encodeAll_eq : codec.encodeAll instructions =
    match firstError? (writeEach { codec } instructions).1 with
    | some error => .error error
    | none => .ok (writeEach { codec } instructions).2.output

theorem map_output_filter (codec : Codec) (instructions : List Instruction) :
    (instructions.filter fun instruction => (write { codec } instruction).1.isOk).map
        (fun instruction => (write { codec } instruction).2.output) =
      instructions.filterMap fun instruction => (codec.encode instruction).toOption := by
  induction instructions with
  | nil => rfl
  | cons instruction instructions ih =>
      obtain ⟨error, staged, hencode, hwrite⟩ | ⟨record, hencode, hwrite⟩ :=
        write_cases { codec } instruction
      · have hfails : ¬ (write { codec } instruction).1.isOk := by
          rw [hwrite]
          exact Bool.false_ne_true
        rw [List.filter_cons, if_neg hfails, ih, List.filterMap_cons, hencode]
        rfl
      · have hsucceeds : (write { codec } instruction).1.isOk := by
          rw [hwrite]
          rfl
        rw [List.filter_cons, if_pos hsucceeds, List.map_cons, ih, List.filterMap_cons, hencode,
          hwrite]
        simp [output, commit, Except.toOption]

theorem atomic (codec : Codec) (instructions : List Instruction) : Atomic codec instructions where
  results_eq := by
    rw [results_writeEach]
    exact List.map_congr_left fun instruction _ => (result_write { codec } instruction).symm
  output_eq := by
    rw [output_writeEach, map_output_filter]
    rfl
  steps_eq before behind h := by
    rw [← h, writeEach_append]
  counts before _ := by
    refine ⟨bytesWritten_writeEach rfl before, ?_⟩
    rw [instructionsWritten_writeEach]
    exact Nat.zero_add _
  failure before instruction behind error _ h := by
    obtain ⟨staged, hwrite⟩ := write_of_error h
    dsimp only
    rw [hwrite]
    exact ⟨rfl, rfl, rfl, writeEach_staged _ staged behind⟩
  encodeAll_eq := by
    rw [Codec.encodeAll_eq_firstError?, results_writeEach, output_writeEach]
    rw [← firstError?_map_map (fun _ => ()), List.map_map]
    rfl

-- A length field is staged behind the opcode and dropped again.
example :
    let run := writeEach { codec := ⟨.utf8, false⟩ } [⟨0x801, [⟨1, true, .text "ab"⟩]⟩]
    run.1 = [.error ⟨0x801, 0, .lengthMismatch 1 1 2⟩] ∧ run.2.staged = [1, 8, 1, 0] ∧
      (run.2.writeEach [⟨0x82B, []⟩]).2.output = [0x2B, 8] := by
  decide +kernel

end Writer

end MajiroScript
