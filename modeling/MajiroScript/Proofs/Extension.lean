import MajiroScript.Proofs.Diagnosis

/-! Bodies that go on.  More bytes do not help where an opcode or a text is wrong,
and where bytes were missing the error says how many. -/
namespace MajiroScript

/-- The error that takes its place when so many more bytes are still too few. -/
def DecodeError.withMore (error : DecodeError) (count : Nat) : DecodeError :=
  match error with
  | truncated opcode offset needed available => truncated opcode offset needed (available + count)
  | other => other

/-- Whether so many more bytes cannot help. -/
def DecodeError.Persists (error : DecodeError) (count : Nat) : Prop :=
  match error with
  | truncated _ _ needed available => available + count < needed
  | _ => True

namespace Codec

variable {codec : Codec} {body operands : Bytes} {offset : Nat} {opcode : Opcode}
  {error : DecodeError}

theorem Refuses.append (h : codec.Refuses opcode offset operands error) {more : Bytes}
    (hpersists : error.Persists more.length) :
    codec.Refuses opcode offset (operands ++ more) (error.withMore more.length) := by
  cases h with
  | unknownOpcode hgrammar => exact .unknownOpcode hgrammar
  | numbers hgrammar hshort =>
      simp only [DecodeError.Persists, ← List.length_append] at hpersists
      rw [DecodeError.withMore, ← List.length_append]
      exact .numbers hgrammar hpersists
  | lengthField hgrammar hsized hshort =>
      simp only [DecodeError.Persists, ← List.length_append] at hpersists
      rw [DecodeError.withMore, ← List.length_append]
      exact .lengthField hgrammar hsized hpersists
  | payload hgrammar hsized hshort =>
      simp only [DecodeError.Persists, ← List.length_append] at hpersists
      rw [DecodeError.withMore, ← List.length_append, List.append_assoc]
      exact .payload hgrammar hsized hpersists
  | text hgrammar hstrict hcount hinvalid =>
      rw [List.append_assoc, List.append_assoc]
      exact .text hgrammar hstrict hcount hinvalid

theorem error_append (h : (codec.run body).error? = some error) {more : Bytes}
    (hpersists : error.Persists more.length) :
    (codec.run (body ++ more)).error? = some (error.withMore more.length) := by
  obtain ⟨hcomes, hrefuses⟩ := comesTo_of_error h
  have hlonger := hrefuses.append hpersists
  rw [← Bytes.uint16At_append hcomes.inside more,
    ← List.drop_append_of_le_length hcomes.inside] at hlonger
  obtain ⟨last, hrun⟩ := (hcomes.append more).run_of_refuses hlonger
  rw [hrun]

/-- The operands are all there up to `after`.  Only a text can still be refused. -/
def ReadsTo (codec : Codec) (opcode : Opcode) (offset : Nat) (cursor after : Cursor) : Prop :=
  (∃ operands, codec.readInstruction opcode offset cursor = (.ok ⟨opcode, operands⟩, after)) ∨
    (codec.strictText = true ∧ codec.readInstruction opcode offset cursor =
      (.error (.invalidText opcode offset codec.encoding), after))

theorem readsTo_of_numbers {widths : List UInt16} {cursor : Cursor}
    (hgrammar : opcode.grammar? = some (.fixed widths))
    (hlong : (widths.map UInt16.toNat).sum ≤ cursor.remaining) :
    ∃ after, codec.ReadsTo opcode offset cursor after ∧
      after.position = cursor.position + (widths.map UInt16.toNat).sum := by
  cases hread : cursor.readUInts? widths with
  | none =>
      have hshort := Cursor.readUInts?_eq_none_iff.mp hread
      omega
  | some read =>
      have hremaining := Cursor.remaining_of_readUInts? hread
      have hwhole := (Cursor.reaches_of_readUInts? hread).position_add_remaining
      have hsum : widths.foldr (fun width total => width.toNat + total) 0 = _ :=
        Grammar.minOperandLength_fixed widths
      refine ⟨read.2, .inl ⟨List.zipWith Operand.numeric widths read.1, ?_⟩, by omega⟩
      simp only [readInstruction, hgrammar, readOperands, hread]
      rfl

theorem readsTo_of_payload {grammar : Grammar} {cursor : Cursor} {declared : UInt16}
    {rest : Bytes} (hgrammar : opcode.grammar? = some grammar) (hsized : grammar.hasLengthField)
    (hrest : cursor.rest = Bytes.ofUInt16 declared ++ rest)
    (hlong : grammar.payloadLength declared ≤ rest.length) :
    ∃ after, codec.ReadsTo opcode offset cursor after ∧
      after.position = cursor.position + 2 + grammar.payloadLength declared := by
  have hcount : (rest.take (grammar.payloadLength declared)).length =
      grammar.payloadLength declared := List.length_take_of_le hlong
  have hadvances : cursor.Advances
      (Bytes.ofUInt16 declared ++ rest.take (grammar.payloadLength declared))
      ⟨cursor.position + 2 + grammar.payloadLength declared,
        rest.drop (grammar.payloadLength declared)⟩ := by
    constructor
    · rw [hrest, List.append_assoc, List.take_append_drop]
    · rw [List.length_append, Bytes.length_ofUInt16, hcount, Nat.add_assoc]
  refine ⟨⟨cursor.position + 2 + grammar.payloadLength declared,
    rest.drop (grammar.payloadLength declared)⟩, ?_, rfl⟩
  rw [ReadsTo, readInstruction_of_sized hgrammar hsized, readSized_of_whole hcount hadvances]
  cases hpayload : codec.sizedPayload opcode offset grammar
      (rest.take (grammar.payloadLength declared)) with
  | ok payload => exact .inl ⟨[⟨declared, true, payload⟩], rfl⟩
  | error error =>
      obtain ⟨-, hstrict, -, rfl⟩ := sizedPayload_eq_error_iff.mp hpayload
      exact .inr ⟨hstrict, rfl⟩

/-- With as many bytes as were missing, an instruction whose length was known is
read to its end. -/
theorem Refuses.complete {found : Opcode} {place needed available : Nat}
    (h : codec.Refuses opcode offset operands (.truncated found place needed available))
    {more : Bytes} (hlong : needed ≤ available + more.length)
    (hknown : (∃ widths, opcode.grammar? = some (.fixed widths)) ∨ 2 ≤ operands.length)
    {cursor : Cursor} (hrest : cursor.rest = operands ++ more) :
    ∃ after, codec.ReadsTo opcode offset cursor after ∧
      after.position + available = cursor.position + operands.length + needed := by
  cases h with
  | numbers hgrammar hshort =>
      rw [← List.length_append, ← hrest] at hlong
      obtain ⟨after, hread, hposition⟩ := readsTo_of_numbers hgrammar hlong
      exact ⟨after, hread, by omega⟩
  | lengthField hgrammar hsized hshort =>
      rcases hknown with ⟨widths, hfixed⟩ | hlength
      · rw [hfixed] at hgrammar
        cases hgrammar
        contradiction
      · omega
  | payload hgrammar hsized hshort =>
      rw [← List.length_append] at hlong
      rw [List.append_assoc] at hrest
      obtain ⟨after, hread, hposition⟩ := readsTo_of_payload hgrammar hsized hrest hlong
      refine ⟨after, hread, ?_⟩
      rw [hposition, List.length_append, Bytes.length_ofUInt16]
      omega

theorem ComesTo.run_of_readInstruction {instruction : Instruction} {after : Cursor}
    (h : codec.ComesTo body offset)
    (hread : codec.readInstruction (body.uint16At offset) offset
      ⟨offset + 2, body.drop (offset + 2)⟩ = (.ok instruction, after)) :
    (codec.run (body.take offset)).steps ++ [⟨instruction, offset, after.position⟩] <+:
      (codec.run body).steps := by
  have hopcode : Reader.remainder ⟨codec, ⟨offset, body.drop offset⟩, false⟩ = _ :=
    Bytes.drop_eq_uint16At h.inside
  have hnext : Reader.next ⟨codec, ⟨offset, body.drop offset⟩, false⟩ =
      (some (.ok instruction), ⟨codec, after, false⟩) := by
    rw [Reader.next_of_opcode rfl hopcode]
    dsimp only [Reader.position]
    rw [hread]
  have hsteps := Reader.yields_append_iff.mpr ⟨_, h.yields, .cons hnext (.nil _)⟩
  have hrun : codec.run body = _ := hsteps.run_eq_append
  rw [hrun]
  exact List.prefix_append _ _

theorem complete_append {needed available : Nat}
    (h : (codec.run body).error? = some (.truncated opcode offset needed available))
    {more : Bytes} (hlong : needed ≤ available + more.length)
    (hknown : (∃ widths, opcode.grammar? = some (.fixed widths)) ∨ offset + 4 ≤ body.length) :
    (∃ instruction stop, (codec.run body).steps ++ [⟨instruction, offset, stop⟩] <+:
        (codec.run (body ++ more)).steps ∧
      instruction.opcode = opcode ∧ stop + available = body.length + needed) ∨
    (codec.strictText = true ∧
      (codec.run (body ++ more)).error? = some (.invalidText opcode offset codec.encoding)) := by
  obtain ⟨hcomes, hrefuses⟩ := comesTo_of_error h
  obtain ⟨last, hrun⟩ := hcomes.run_of_refuses hrefuses
  dsimp only [DecodeError.offset] at hcomes hrefuses hrun
  have hinside := hcomes.inside
  -- In the longer body the reader comes to the same opcode after the same steps.
  have hlonger := hcomes.append more
  have hfront : (body ++ more).take offset = body.take offset :=
    List.take_append_of_le_length (Nat.le_of_add_right_le hinside)
  have hopcode := Bytes.uint16At_append hinside more
  rw [← hrefuses.opcode_eq, DecodeError.opcode] at hopcode hrefuses
  have hlength : (body.drop (offset + 2)).length = body.length - (offset + 2) :=
    List.length_drop
  have hfield : (∃ widths, opcode.grammar? = some (.fixed widths)) ∨
      2 ≤ (body.drop (offset + 2)).length := hknown.imp_right fun h => by omega
  have hrest : Cursor.rest ⟨offset + 2, (body ++ more).drop (offset + 2)⟩ =
      body.drop (offset + 2) ++ more := List.drop_append_of_le_length hinside
  obtain ⟨after, ⟨fields, hread⟩ | ⟨hstrict, hread⟩, hposition⟩ :=
    hrefuses.complete hlong hfield hrest
  · left
    refine ⟨⟨opcode, fields⟩, after.position, ?_, rfl, ?_⟩
    · rw [hrun, ← hfront]
      apply hlonger.run_of_readInstruction
      rw [hopcode]
      exact hread
    · dsimp only at hposition
      omega
  · right
    have hagain := refuses_of_readInstruction (congrArg Prod.fst hread)
    rw [← hopcode] at hagain
    obtain ⟨last, hend⟩ := hlonger.run_of_refuses hagain
    rw [hend, hopcode]
    exact ⟨hstrict, rfl⟩

/-- More bytes behind a body change nothing about an unknown opcode or a wrong
text.  They make up for missing bytes one for one, and once there are as many as
were missing the instruction is read or its text is wrong.  Only a length field
that was missing can ask for more. -/
theorem decodeAll_append_of_error (h : codec.decodeAll body = .error error) (more : Bytes) :
    match error with
    | .unknownOpcode _ _ | .invalidText _ _ _ => codec.decodeAll (body ++ more) = .error error
    | .truncated opcode offset needed available =>
        (available + more.length < needed →
          codec.decodeAll (body ++ more) =
            .error (.truncated opcode offset needed (available + more.length))) ∧
        (needed ≤ available + more.length →
          (∃ widths, opcode.grammar? = some (.fixed widths)) ∨ offset + 4 ≤ body.length →
          (∃ instruction stop, (codec.run body).steps ++ [⟨instruction, offset, stop⟩] <+:
              (codec.run (body ++ more)).steps ∧
            instruction.opcode = opcode ∧ stop + available = body.length + needed) ∨
          (codec.strictText = true ∧ codec.decodeAll (body ++ more) =
            .error (.invalidText opcode offset codec.encoding))) := by
  have herror := Run.result_eq_error_iff.mp h
  split
  · exact Run.result_eq_error_iff.mpr (error_append herror trivial)
  · exact Run.result_eq_error_iff.mpr (error_append herror trivial)
  · constructor
    · intro hshort
      exact Run.result_eq_error_iff.mpr (error_append herror hshort)
    · intro hlong hknown
      refine (complete_append herror hlong hknown).imp_right ?_
      rintro ⟨hstrict, hinvalid⟩
      exact ⟨hstrict, Run.result_eq_error_iff.mpr hinvalid⟩

/-- A text of which two of four bytes are there.  One more byte is too few, two
more bytes end it, and they make it right or wrong.  An unknown opcode stays
unknown. -/
theorem decodeAll_append_of_error_text :
    decodeAll ⟨.utf8, true⟩ [0x2B, 8, 1, 8, 4, 0, 0x41, 0x42] =
        .error (.truncated 0x801 2 4 2) ∧
      decodeAll ⟨.utf8, true⟩ ([0x2B, 8, 1, 8, 4, 0, 0x41, 0x42] ++ [0x43]) =
        .error (.truncated 0x801 2 4 3) ∧
      (∃ instruction stop,
        (run ⟨.utf8, true⟩ [0x2B, 8, 1, 8, 4, 0, 0x41, 0x42]).steps ++ [⟨instruction, 2, stop⟩] <+:
          (run ⟨.utf8, true⟩ ([0x2B, 8, 1, 8, 4, 0, 0x41, 0x42] ++ [0x43, 0x44])).steps ∧
        instruction.opcode = 0x801 ∧ stop + 2 = 8 + 4) ∧
      decodeAll ⟨.utf8, true⟩ ([0x2B, 8, 1, 8, 4, 0, 0x41, 0x42] ++ [0xFF, 0xFF]) =
        .error (.invalidText 0x801 2 .utf8) ∧
      decodeAll ⟨.utf8, true⟩ ([0xFF, 0xFF] ++ [0x2B, 8]) =
        .error (.unknownOpcode 0xFFFF 0) := by
  have hshort : decodeAll ⟨.utf8, true⟩ [0x2B, 8, 1, 8, 4, 0, 0x41, 0x42] =
      .error (.truncated 0x801 2 4 2) := by
    decide +kernel
  have hunknown : decodeAll ⟨.utf8, true⟩ [0xFF, 0xFF] = .error (.unknownOpcode 0xFFFF 0) := by
    decide +kernel
  have hright := (decodeAll_append_of_error hshort [0x43, 0x44]).2 (by decide) (.inr (by decide))
  have hwrong := (decodeAll_append_of_error hshort [0xFF, 0xFF]).2 (by decide) (.inr (by decide))
  refine ⟨hshort, (decodeAll_append_of_error hshort [0x43]).1 (by decide), ?_, ?_,
    decodeAll_append_of_error hunknown [0x2B, 8]⟩
  · exact hright.resolve_right (by decide +kernel)
  · refine (hwrong.resolve_left ?_).2
    rintro ⟨instruction, stop, hsteps, -⟩
    have hlength := hsteps.length_le
    have hbefore : (run ⟨.utf8, true⟩ [0x2B, 8, 1, 8, 4, 0, 0x41, 0x42]).steps.length = 1 := by
      decide +kernel
    have hafter : (run ⟨.utf8, true⟩
        ([0x2B, 8, 1, 8, 4, 0, 0x41, 0x42] ++ [0xFF, 0xFF])).steps.length = 1 := by
      decide +kernel
    rw [List.length_append, hbefore, hafter] at hlength
    contradiction

end Codec

end MajiroScript
