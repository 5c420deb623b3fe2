import Mathlib.Data.List.Forall2
import MajiroScript.Container.Events
import MajiroScript.Proofs.Calls
import MajiroScript.Proofs.Inverse

/-! Readers that go through the same body with different codecs.  They stay in
step, because the codec only decides what becomes of the bytes of a text: where
these bytes end was known before. -/
namespace MajiroScript

open Text (Encoding)

def Instruction.KeepsBytes (instruction : Instruction) : Prop :=
  ∃ operand ∈ instruction.operands, (operand.keptBytes? instruction.opcode).isSome

instance : DecidablePred Instruction.KeepsBytes := fun instruction =>
  inferInstanceAs (Decidable (∃ operand ∈ instruction.operands,
    (operand.keptBytes? instruction.opcode).isSome))

/-- Instructions that differ at most in what became of the bytes of a text. -/
structure Instruction.SameLayout (one other : Instruction) : Prop where
  opcode_eq : other.opcode = one.opcode
  lengths_eq :
    other.operands.map (fun operand => (operand.declaredLength, operand.lengthEmbedded)) =
      one.operands.map (fun operand => (operand.declaredLength, operand.lengthEmbedded))
  operands_eq : one.opcode.grammar? ≠ some .text → other.operands = one.operands

structure Step.SameLayout (one other : Step) : Prop where
  start_eq : other.start = one.start
  stop_eq : other.stop = one.stop
  instruction : one.instruction.SameLayout other.instruction

structure Run.SameLayout (one other : Run) : Prop where
  steps : List.Forall₂ Step.SameLayout one.steps other.steps
  error_eq : other.error? = one.error?
  position_eq : other.last.position = one.last.position
  remainder_eq : other.last.remainder = one.last.remainder

namespace Instruction

theorem not_keepsBytes {instruction : Instruction}
    (h : instruction.opcode.grammar? ≠ some .text) : ¬ instruction.KeepsBytes := by
  rintro ⟨operand, -, hkept⟩
  unfold Operand.keptBytes? at hkept
  split at hkept
  · contradiction
  · simp at hkept

theorem keepsBytes_iff {opcode : Opcode} {declared : UInt16} {payload : Payload}
    (h : opcode.grammar? = some .text) :
    KeepsBytes ⟨opcode, [⟨declared, true, payload⟩]⟩ ↔ ∃ bytes, payload = .raw bytes := by
  unfold KeepsBytes Operand.keptBytes?
  cases payload <;> simp [h]

theorem SameLayout.refl (instruction : Instruction) : instruction.SameLayout instruction :=
  ⟨rfl, rfl, fun _ => rfl⟩

end Instruction

namespace Codec

theorem sizedPayload_of_ne_text {codec : Codec} {opcode : Opcode} {offset : Nat}
    {grammar : Grammar} {bytes : Bytes} (h : grammar ≠ .text) :
    codec.sizedPayload opcode offset grammar bytes = .ok (.raw bytes) := by
  cases grammar with
  | text => contradiction
  | bare | fixed | raw | table => rfl

theorem exists_textPayload {codec : Codec} (h : codec.strictText = false) (opcode : Opcode)
    (offset : Nat) (bytes : Bytes) :
    ∃ payload, codec.textPayload opcode offset bytes = .ok payload := by
  unfold textPayload
  split
  · exact ⟨_, rfl⟩
  · rw [h]
    exact ⟨_, rfl⟩

/-- A strict codec refuses what another one keeps as bytes and agrees with it
otherwise. -/
theorem textPayload_strict (encoding : Encoding) (opcode : Opcode) (offset : Nat)
    (bytes : Bytes) :
    textPayload ⟨encoding, true⟩ opcode offset bytes =
      match textPayload ⟨encoding, false⟩ opcode offset bytes with
      | .ok (.raw _) => .error (.invalidText opcode offset encoding)
      | result => result := by
  unfold textPayload
  dsimp only
  split
  · rfl
  · rfl

end Codec

namespace Reader

def withCodec (reader : Reader) (codec : Codec) : Reader :=
  { reader with codec }

@[simp] theorem withCodec_cursor (reader : Reader) (codec : Codec) :
    (reader.withCodec codec).cursor = reader.cursor := rfl

@[simp] theorem withCodec_failed (reader : Reader) (codec : Codec) :
    (reader.withCodec codec).failed = reader.failed := rfl

@[simp] theorem withCodec_position (reader : Reader) (codec : Codec) :
    (reader.withCodec codec).position = reader.position := rfl

/-- What the next call comes to with any codec.  A codec has a say only in the
payload of a text, and the bytes of the text are passed over also if it is
refused. -/
inductive Uniform (reader : Reader) : Prop where
  | ends (error? : Option DecodeError) (last : Reader)
      (valid : ∀ opcode offset encoding, error? ≠ some (.invalidText opcode offset encoding))
      (next_eq : ∀ codec, (reader.withCodec codec).next =
        (error?.map .error, last.withCodec codec))
  | plain (instruction : Instruction) (after : Reader)
      (other : instruction.opcode.grammar? ≠ some .text)
      (next_eq : ∀ codec, (reader.withCodec codec).next =
        (some (.ok instruction), after.withCodec codec))
  | text (opcode : Opcode) (declared : UInt16) (bytes : Bytes) (after : Reader)
      (grammar_eq : opcode.grammar? = some .text)
      (taken : ∀ codec payload, codec.textPayload opcode reader.position bytes = .ok payload →
        (reader.withCodec codec).next =
          (some (.ok ⟨opcode, [⟨declared, true, payload⟩]⟩), after.withCodec codec))
      (refused : ∀ codec error, codec.textPayload opcode reader.position bytes = .error error →
        (reader.withCodec codec).next =
          (some (.error error), { after with failed := true }.withCodec codec))

section Uniform

variable {reader : Reader} {opcode : Opcode} {behindOpcode : Cursor} {grammar : Grammar}

theorem next_withCodec (hgood : reader.failed = false)
    (hopcode : reader.cursor.readUInt16? = some (opcode, behindOpcode)) (codec : Codec) :
    (reader.withCodec codec).next =
      match codec.readInstruction opcode reader.position behindOpcode with
      | (.ok instruction, cursor) =>
          (some (.ok instruction), { reader with cursor }.withCodec codec)
      | (.error error, cursor) =>
          (some (.error error), { reader with cursor, failed := true }.withCodec codec) := by
  unfold next
  simp only [withCodec_failed, withCodec_cursor, hgood, hopcode, Bool.false_eq_true, if_false]
  rfl

theorem uniform_of_fixed (hgood : reader.failed = false)
    (hopcode : reader.cursor.readUInt16? = some (opcode, behindOpcode)) {widths : List UInt16}
    (hgrammar : opcode.grammar? = some (.fixed widths)) : reader.Uniform := by
  have hnext := next_withCodec hgood hopcode
  simp only [Codec.readInstruction, hgrammar, Codec.readOperands] at hnext
  cases hvalues : behindOpcode.readUInts? widths with
  | none =>
      simp only [hvalues] at hnext
      exact .ends (some (.truncated opcode reader.position
        (Grammar.fixed widths).minOperandLength behindOpcode.remaining))
        { reader with cursor := behindOpcode, failed := true } (by simp) hnext
  | some read =>
      obtain ⟨values, after⟩ := read
      simp only [hvalues] at hnext
      exact .plain ⟨opcode, List.zipWith Operand.numeric widths values⟩
        { reader with cursor := after } (by simp [hgrammar]) hnext

theorem uniform_of_sized (hgood : reader.failed = false)
    (hopcode : reader.cursor.readUInt16? = some (opcode, behindOpcode))
    (hgrammar : opcode.grammar? = some grammar)
    (hsized : ∀ codec : Codec, codec.readOperands opcode reader.position grammar behindOpcode =
      codec.readSized opcode reader.position grammar behindOpcode) : reader.Uniform := by
  have hnext := next_withCodec hgood hopcode
  simp only [Codec.readInstruction, hgrammar, hsized, Codec.readSized] at hnext
  cases hlength : behindOpcode.readUInt16? with
  | none =>
      refine .ends (some (.truncated opcode reader.position 2 behindOpcode.remaining))
        { reader with cursor := behindOpcode, failed := true } (by simp) ?_
      intro codec
      rw [hnext, hlength]
      rfl
  | some field =>
      obtain ⟨declared, behindLength⟩ := field
      simp only [hlength] at hnext
      cases hbytes : behindLength.take? (grammar.payloadLength declared) with
      | none =>
          refine .ends (some (.truncated opcode reader.position (grammar.payloadLength declared)
            behindLength.remaining)) { reader with cursor := behindLength, failed := true }
            (by simp) ?_
          intro codec
          rw [hnext, hbytes]
          rfl
      | some taken =>
          obtain ⟨bytes, after⟩ := taken
          simp only [hbytes] at hnext
          by_cases htext : grammar = .text
          · subst htext
            refine .text opcode declared bytes { reader with cursor := after } hgrammar ?_ ?_
            · intro codec payload hpayload
              rw [hnext, Codec.sizedPayload, hpayload]
              rfl
            · intro codec error herror
              rw [hnext, Codec.sizedPayload, herror]
              rfl
          · refine .plain ⟨opcode, [⟨declared, true, .raw bytes⟩]⟩ { reader with cursor := after }
              (by simpa [hgrammar] using htext) ?_
            intro codec
            rw [hnext, Codec.sizedPayload_of_ne_text htext]
            rfl

theorem uniform_of_opcode (hgood : reader.failed = false)
    (hopcode : reader.cursor.readUInt16? = some (opcode, behindOpcode)) : reader.Uniform := by
  have hnext := next_withCodec hgood hopcode
  cases hgrammar : opcode.grammar? with
  | none =>
      simp only [Codec.readInstruction, hgrammar] at hnext
      exact .ends (some (.unknownOpcode opcode reader.position))
        { reader with cursor := behindOpcode, failed := true } (by simp) hnext
  | some grammar =>
      cases grammar with
      | bare =>
          simp only [Codec.readInstruction, hgrammar] at hnext
          exact .plain ⟨opcode, []⟩ { reader with cursor := behindOpcode }
            (by simp [hgrammar]) hnext
      | fixed widths => exact uniform_of_fixed hgood hopcode hgrammar
      | text => exact uniform_of_sized hgood hopcode hgrammar fun _ => rfl
      | raw => exact uniform_of_sized hgood hopcode hgrammar fun _ => rfl
      | table stride => exact uniform_of_sized hgood hopcode hgrammar fun _ => rfl

theorem uniform (reader : Reader) : reader.Uniform := by
  cases hgood : reader.failed with
  | true =>
      refine .ends none reader (by simp) ?_
      intro codec
      simp [next, hgood]
  | false =>
      cases hopcode : reader.cursor.readUInt16? with
      | none =>
          refine .ends none reader (by simp) ?_
          intro codec
          simp [next, hgood, hopcode]
      | some found => exact uniform_of_opcode hgood hopcode

end Uniform

theorem end_withCodec {reader last : Reader} {error? : Option DecodeError}
    (hlenient : reader.codec.strictText = false)
    (h : reader.next = (error?.map .error, last)) :
    (∀ opcode offset encoding, error? ≠ some (.invalidText opcode offset encoding)) ∧
      ∀ codec, (reader.withCodec codec).next = (error?.map .error, last.withCodec codec) := by
  cases reader.uniform with
  | ends found stop valid next_eq =>
      obtain ⟨hfound, rfl⟩ := Prod.mk.inj ((next_eq reader.codec).symm.trans h)
      obtain rfl : found = error? := Option.map_injective (fun _ _ => Except.error.inj) hfound
      exact ⟨valid, next_eq⟩
  | plain instruction after other next_eq =>
      cases error? <;> cases (next_eq reader.codec).symm.trans h
  | text opcode declared bytes after grammar_eq taken refused =>
      obtain ⟨payload, hpayload⟩ :=
        Codec.exists_textPayload hlenient opcode reader.position bytes
      cases error? <;> cases (taken reader.codec payload hpayload).symm.trans h

theorem next_sameLayout {reader after : Reader} {instruction : Instruction} {codec : Codec}
    (hlenient : reader.codec.strictText = false) (hcodec : codec.strictText = false)
    (h : reader.next = (some (.ok instruction), after)) :
    ∃ other, instruction.SameLayout other ∧
      (reader.withCodec codec).next = (some (.ok other), after.withCodec codec) := by
  cases reader.uniform with
  | ends error? last valid next_eq =>
      cases error? <;> cases (next_eq reader.codec).symm.trans h
  | plain found stop other next_eq =>
      cases (next_eq reader.codec).symm.trans h
      exact ⟨instruction, .refl instruction, next_eq codec⟩
  | text opcode declared bytes stop grammar_eq taken refused =>
      obtain ⟨payload, hpayload⟩ :=
        Codec.exists_textPayload hlenient opcode reader.position bytes
      cases (taken reader.codec payload hpayload).symm.trans h
      obtain ⟨content, hcontent⟩ :=
        Codec.exists_textPayload hcodec opcode reader.position bytes
      refine ⟨⟨opcode, [⟨declared, true, content⟩]⟩, ⟨rfl, rfl, ?_⟩, taken codec content hcontent⟩
      intro hother
      exact absurd grammar_eq hother

theorem next_strict {reader after : Reader} {instruction : Instruction} {encoding : Encoding}
    (hcodec : reader.codec = ⟨encoding, false⟩)
    (h : reader.next = (some (.ok instruction), after)) :
    (reader.withCodec ⟨encoding, true⟩).next =
      if instruction.KeepsBytes then
        (some (.error (.invalidText instruction.opcode reader.position encoding)),
          { after with failed := true }.withCodec ⟨encoding, true⟩)
      else (some (.ok instruction), after.withCodec ⟨encoding, true⟩) := by
  cases reader.uniform with
  | ends error? last valid next_eq =>
      cases error? <;> cases (next_eq reader.codec).symm.trans h
  | plain found stop other next_eq =>
      cases (next_eq reader.codec).symm.trans h
      rw [if_neg (Instruction.not_keepsBytes other)]
      exact next_eq _
  | text opcode declared bytes stop grammar_eq taken refused =>
      have hstrict := Codec.textPayload_strict encoding opcode reader.position bytes
      rw [← hcodec] at hstrict
      have hlenient : reader.codec.strictText = false := by rw [hcodec]
      obtain ⟨payload, hpayload⟩ :=
        Codec.exists_textPayload hlenient opcode reader.position bytes
      cases (taken reader.codec payload hpayload).symm.trans h
      rw [hpayload] at hstrict
      by_cases hkept : ∃ content, payload = .raw content
      · rw [if_pos ((Instruction.keepsBytes_iff grammar_eq).mpr hkept)]
        obtain ⟨content, rfl⟩ := hkept
        exact refused _ _ hstrict
      · rw [if_neg (mt (Instruction.keepsBytes_iff grammar_eq).mp hkept)]
        refine taken _ _ (hstrict.trans ?_)
        split
        · rename_i content heq
          cases heq
          exact absurd ⟨content, rfl⟩ hkept
        · rfl

theorem Yields.sameLayout {reader last : Reader} {steps : List Step}
    (h : reader.Yields steps last) (hlenient : reader.codec.strictText = false) {codec : Codec}
    (hcodec : codec.strictText = false) :
    ∃ others, List.Forall₂ Step.SameLayout steps others ∧
      (reader.withCodec codec).Yields others (last.withCodec codec) := by
  induction h with
  | nil reader => exact ⟨[], .nil, .nil _⟩
  | @cons reader after last instruction steps first _ ih =>
      -- Both readers stand at one place again behind the step.
      obtain ⟨other, hother, hnext⟩ := next_sameLayout hlenient hcodec first
      obtain ⟨others, hothers, hyields⟩ := ih (by rw [codec_of_next first, hlenient])
      exact ⟨⟨other, reader.position, after.position⟩ :: others,
        .cons ⟨rfl, rfl, hother⟩ hothers, (Yields.cons hnext hyields :)⟩

theorem Yields.strict {reader last : Reader} {steps : List Step} {encoding : Encoding}
    (h : reader.Yields steps last) (hcodec : reader.codec = ⟨encoding, false⟩)
    (hclean : ∀ step ∈ steps, ¬ step.instruction.KeepsBytes) :
    (reader.withCodec ⟨encoding, true⟩).Yields steps (last.withCodec ⟨encoding, true⟩) := by
  induction h with
  | nil reader => exact .nil _
  | @cons reader after last instruction steps first _ ih =>
      have hnext := next_strict hcodec first
      rw [if_neg (hclean _ List.mem_cons_self)] at hnext
      have hothers : (after.withCodec ⟨encoding, true⟩).Yields steps
          (last.withCodec ⟨encoding, true⟩) := by
        refine ih (by rw [codec_of_next first, hcodec]) ?_
        intro step hmem
        exact hclean step (List.mem_cons_of_mem _ hmem)
      exact (Yields.cons hnext hothers :)

theorem yields_run_lenient {reader : Reader} (hlenient : reader.codec.strictText = false) :
    (∀ opcode offset encoding,
      reader.run.error? ≠ some (.invalidText opcode offset encoding)) ∧
    ∃ middle, reader.Yields reader.run.steps middle ∧
      ∀ codec, (middle.withCodec codec).next =
        (reader.run.error?.map .error, reader.run.last.withCodec codec) := by
  obtain ⟨middle, hsteps, hend⟩ := reader.yields_run
  rw [← hsteps.codec_eq] at hlenient
  obtain ⟨hvalid, hends⟩ := end_withCodec hlenient hend
  exact ⟨hvalid, middle, hsteps, hends⟩

theorem Yields.run_of_kept {encoding : Encoding} {body : Bytes} {front : List Step} {kept : Step}
    {last : Reader} (h : (ofBody ⟨encoding, false⟩ body).Yields (front ++ [kept]) last)
    (hclean : ∀ step ∈ front, ¬ step.instruction.KeepsBytes)
    (hkept : kept.instruction.KeepsBytes) :
    (ofBody ⟨encoding, true⟩ body).run =
      { steps := front
        error? := some (.invalidText kept.instruction.opcode kept.start encoding)
        last :=
          { codec := ⟨encoding, true⟩
            cursor := ⟨kept.stop, body.drop kept.stop⟩
            failed := true } } := by
  have hcursor := h.cursor_eq
  obtain ⟨reader, hfront, hbehind⟩ := yields_append_iff.mp h
  cases hbehind with
  | @cons _ after _ instruction _ first others =>
      cases others
      have hnext := next_strict hfront.codec_eq first
      rw [if_pos hkept, withCodec, hcursor] at hnext
      have hend : (reader.withCodec ⟨encoding, true⟩).next =
          (Option.map .error (some (.invalidText instruction.opcode reader.position encoding)),
            ⟨⟨encoding, true⟩, ⟨last.position, body.drop last.position⟩, true⟩) := hnext
      exact (hfront.strict rfl hclean).run_eq hend

end Reader

namespace Codec

/-- A strict run and one that may keep bytes are the same up to the first
instruction in which bytes are kept.  There the strict run ends with an error at
that instruction, behind the bytes that are no text. -/
theorem run_strict (encoding : Encoding) (body : Bytes) :
    (∀ opcode offset other,
      (run ⟨encoding, false⟩ body).error? ≠ some (.invalidText opcode offset other)) ∧
    ((∀ step ∈ (run ⟨encoding, false⟩ body).steps, ¬ step.instruction.KeepsBytes) →
      run ⟨encoding, true⟩ body =
        { run ⟨encoding, false⟩ body with
          last := (run ⟨encoding, false⟩ body).last.withCodec ⟨encoding, true⟩ }) ∧
    ∀ front kept behind, (run ⟨encoding, false⟩ body).steps = front ++ kept :: behind →
      (∀ step ∈ front, ¬ step.instruction.KeepsBytes) → kept.instruction.KeepsBytes →
      run ⟨encoding, true⟩ body =
        { steps := front
          error? := some (.invalidText kept.instruction.opcode kept.start encoding)
          last :=
            { codec := ⟨encoding, true⟩
              cursor := ⟨kept.stop, body.drop kept.stop⟩
              failed := true } } := by
  have hlenient : (Reader.ofBody ⟨encoding, false⟩ body).codec.strictText = false := rfl
  obtain ⟨hvalid, middle, hsteps, hends⟩ := Reader.yields_run_lenient hlenient
  refine ⟨hvalid, ?_, ?_⟩
  · intro hclean
    exact (hsteps.strict rfl hclean).run_eq (hends ⟨encoding, true⟩)
  · intro front kept behind hsplit hclean hkept
    have hall : (Reader.ofBody ⟨encoding, false⟩ body).run.steps = (front ++ [kept]) ++ behind := by
      rw [List.append_assoc]
      exact hsplit
    rw [hall] at hsteps
    obtain ⟨last, hfront, -⟩ := Reader.yields_append_iff.mp hsteps
    exact hfront.run_of_kept hclean hkept

/-- A byte that is no text stands between a number and an unknown opcode.  The
strict run ends at that byte and the other one at the opcode.  Without the byte
both end at the opcode. -/
theorem run_strict_kept :
    (run ⟨.utf8, false⟩ [0x3A, 8, 7, 0, 1, 8, 1, 0, 0xFF, 0xFF, 0xFF]).steps =
        [⟨⟨0x83A, [.numeric 2 7]⟩, 0, 4⟩, ⟨⟨0x801, [⟨1, true, .raw [0xFF]⟩]⟩, 4, 9⟩] ∧
      (run ⟨.utf8, false⟩ [0x3A, 8, 7, 0, 1, 8, 1, 0, 0xFF, 0xFF, 0xFF]).error? =
        some (.unknownOpcode 0xFFFF 9) ∧
      run ⟨.utf8, true⟩ [0x3A, 8, 7, 0, 1, 8, 1, 0, 0xFF, 0xFF, 0xFF] =
        ⟨[⟨⟨0x83A, [.numeric 2 7]⟩, 0, 4⟩], some (.invalidText 0x801 4 .utf8),
          ⟨⟨.utf8, true⟩, ⟨9, [0xFF, 0xFF]⟩, true⟩⟩ ∧
      (run ⟨.utf8, true⟩ [0x3A, 8, 7, 0, 0xFF, 0xFF]).error? =
        (run ⟨.utf8, false⟩ [0x3A, 8, 7, 0, 0xFF, 0xFF]).error? := by
  have hsteps : (run ⟨.utf8, false⟩ [0x3A, 8, 7, 0, 1, 8, 1, 0, 0xFF, 0xFF, 0xFF]).steps =
      [⟨⟨0x83A, [.numeric 2 7]⟩, 0, 4⟩] ++
        [⟨⟨0x801, [⟨1, true, .raw [0xFF]⟩]⟩, 4, 9⟩] := by
    decide +kernel
  have hclean : ∀ step ∈ (run ⟨.utf8, false⟩ [0x3A, 8, 7, 0, 0xFF, 0xFF]).steps,
      ¬ step.instruction.KeepsBytes := by
    decide +kernel
  refine ⟨hsteps, by decide +kernel, ?_, ?_⟩
  · exact (run_strict .utf8 _).2.2 _ _ _ hsteps (by decide) (by decide)
  · rw [(run_strict .utf8 _).2.1 hclean]

/-- Whatever the encoding, a run that may keep bytes cuts a body into
instructions at the same places, and what it has cut is written back as it
was. -/
theorem run_sameLayout (first second : Encoding) (body : Bytes) :
    (run ⟨first, false⟩ body).SameLayout (run ⟨second, false⟩ body) ∧
    ∃ count, encodeAll ⟨first, false⟩ (run ⟨first, false⟩ body).instructions =
        .ok (body.take count) ∧
      encodeAll ⟨second, false⟩ (run ⟨second, false⟩ body).instructions =
        .ok (body.take count) := by
  have hlenient : (Reader.ofBody ⟨first, false⟩ body).codec.strictText = false := rfl
  have hother : Codec.strictText ⟨second, false⟩ = false := rfl
  obtain ⟨-, middle, hsteps, hends⟩ := Reader.yields_run_lenient hlenient
  obtain ⟨others, hlayout, hyields⟩ := hsteps.sameLayout hlenient hother
  have hrun : run ⟨second, false⟩ body = ⟨others, _, _⟩ := hyields.run_eq (hends _)
  rw [hrun]
  exact ⟨⟨hlayout, rfl, rfl, rfl⟩, middle.position, (encodeAll_of_yields hsteps).2,
    (encodeAll_of_yields hyields).2⟩

end Codec

end MajiroScript
