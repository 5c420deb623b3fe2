import MajiroScript.Proofs.Concatenation
import MajiroScript.Proofs.Inverse
import MajiroScript.Proofs.Refusals

/-! What the error of a run tells about its body.  The reader has come to the
opcode that the error names, and one look at the bytes from there on tells the
error again. -/
namespace MajiroScript

open Outcome

namespace Codec

/-- A reader comes to stand before an opcode at `offset`, having read all before
it to the last byte. -/
structure ComesTo (codec : Codec) (body : Bytes) (offset : Nat) : Prop where
  inside : offset + 2 ≤ body.length
  good : (codec.run (body.take offset)).error? = none
  whole : (codec.run (body.take offset)).last.remainder = []

variable {codec : Codec} {body : Bytes} {offset : Nat} {opcode : Opcode} {error : DecodeError}

theorem ComesTo.yields_take (h : codec.ComesTo body offset) (rest : Bytes) :
    (Reader.ofBody codec (body.take offset ++ rest)).Yields
      (codec.run (body.take offset)).steps ⟨codec, ⟨offset, rest⟩, false⟩ := by
  have hsteps := yields_append h.good h.whole rest
  have hfront : (body.take offset).length = offset :=
    List.length_take_of_le (Nat.le_of_add_right_le h.inside)
  have hreader : (Reader.ofBody codec rest).shift (body.take offset).length =
      ⟨codec, ⟨offset, rest⟩, false⟩ := by
    simp only [Reader.shift, Cursor.shift, Reader.ofBody, Cursor.ofBytes, hfront, Nat.zero_add]
  rwa [hreader] at hsteps

theorem ComesTo.yields (h : codec.ComesTo body offset) :
    (Reader.ofBody codec body).Yields (codec.run (body.take offset)).steps
      ⟨codec, ⟨offset, body.drop offset⟩, false⟩ := by
  have hsteps := h.yields_take (body.drop offset)
  rwa [List.take_append_drop] at hsteps

theorem ComesTo.run_take (h : codec.ComesTo body offset) :
    codec.run (body.take offset) =
      ⟨(codec.run (body.take offset)).steps, none, ⟨codec, ⟨offset, []⟩, false⟩⟩ := by
  have hsteps := h.yields_take []
  rw [List.append_nil] at hsteps
  have hend : Reader.next ⟨codec, ⟨offset, []⟩, false⟩ =
      (none, ⟨codec, ⟨offset, []⟩, false⟩) :=
    Reader.next_eq_none_iff.mpr ⟨rfl, .inr Nat.two_pos⟩
  exact hsteps.run_eq hend

theorem ComesTo.append (h : codec.ComesTo body offset) (more : Bytes) :
    codec.ComesTo (body ++ more) offset := by
  have hfront : (body ++ more).take offset = body.take offset :=
    List.take_append_of_le_length (Nat.le_of_add_right_le h.inside)
  refine ⟨?_, ?_, ?_⟩
  · rw [List.length_append]
    exact Nat.le_add_right_of_le h.inside
  · rw [hfront]
    exact h.good
  · rw [hfront]
    exact h.whole

theorem ComesTo.run_of_refuses (h : codec.ComesTo body offset)
    (hrefuses : codec.Refuses (body.uint16At offset) offset (body.drop (offset + 2)) error) :
    ∃ last, codec.run body = ⟨(codec.run (body.take offset)).steps, some error, last⟩ := by
  have hnext : (Reader.next ⟨codec, ⟨offset, body.drop offset⟩, false⟩).1 =
      some (.error error) :=
    Reader.next_eq_error_iff.mpr ⟨rfl, _, _, Bytes.drop_eq_uint16At h.inside, hrefuses⟩
  have hend : Reader.next ⟨codec, ⟨offset, body.drop offset⟩, false⟩ =
      (Option.map .error (some error), _) := Prod.ext hnext rfl
  exact ⟨_, h.yields.run_eq hend⟩

theorem comesTo_of_error (h : (codec.run body).error? = some error) :
    codec.ComesTo body error.offset ∧
      codec.Refuses (body.uint16At error.offset) error.offset (body.drop (error.offset + 2))
        error := by
  obtain ⟨reader, hsteps, hend⟩ := (Reader.ofBody codec body).yields_run
  have hstop : (Reader.ofBody codec body).run.error? = some error := h
  rw [hstop] at hend
  obtain ⟨-, opcode, operands, hopcode, hrefuses⟩ :=
    Reader.next_eq_error_iff.mp (congrArg Prod.fst hend)
  rw [hsteps.codec_eq] at hrefuses
  have hdrop : body.drop reader.position = Bytes.ofUInt16 opcode ++ operands := by
    rw [← hopcode, Reader.remainder, hsteps.cursor_eq]
  have hlong : 2 ≤ (body.drop reader.position).length := by
    rw [hdrop, List.length_append, Bytes.length_ofUInt16]
    exact Nat.le_add_right 2 _
  have hinside : reader.position + 2 ≤ body.length := by
    rw [List.length_drop] at hlong
    omega
  -- The instructions read so far write the bytes before the opcode, so these are
  -- read to their end without the rest.
  have hfront : (codec.run (body.take reader.position)).result = .ok _ ∧
      (codec.run (body.take reader.position)).last.remainder = [] :=
    run_result_iff.mpr ⟨hsteps.advances.1, Nat.two_pos, _, (encodeAll_of_yields hsteps).2,
      List.append_nil _⟩
  rw [hrefuses.offset_eq, Bytes.uint16At_of_drop hdrop, Bytes.drop_behind_uint16 hdrop]
  exact ⟨⟨hinside, (Run.result_eq_ok_iff.mp hfront.1).1, hfront.2⟩, hrefuses⟩

end Codec

/-- How many bytes are needed and how many there are, where these are too few. -/
inductive Bytes.Shortfall (body : Bytes) (opcode : Opcode) (offset : Nat) :
    (needed available : Nat) → Prop where
  | numbers {widths : List UInt16} {available : Nat}
      (grammar_eq : opcode.grammar? = some (.fixed widths))
      (length_eq : body.length = offset + 2 + available) :
      Shortfall body opcode offset (widths.map UInt16.toNat).sum available
  | lengthField {grammar : Grammar} {available : Nat}
      (grammar_eq : opcode.grammar? = some grammar) (sized : grammar.hasLengthField)
      (length_eq : body.length = offset + 2 + available) :
      Shortfall body opcode offset 2 available
  | payload {grammar : Grammar} {available : Nat}
      (grammar_eq : opcode.grammar? = some grammar) (sized : grammar.hasLengthField)
      (length_eq : body.length = offset + 4 + available) :
      Shortfall body opcode offset (grammar.payloadLength (body.uint16At (offset + 2))) available

/-- What holds of a body that cannot be read to its end because of the error. -/
structure DecodeError.Diagnoses (error : DecodeError) (codec : Codec) (body : Bytes) : Prop where
  inside : error.offset + 2 ≤ body.length
  opcode_eq : error.opcode = body.uint16At error.offset
  front_eq : codec.run (body.take error.offset) =
    ⟨(codec.run body).steps, none, ⟨codec, ⟨error.offset, []⟩, false⟩⟩
  unknown_iff : (∃ opcode offset, error = .unknownOpcode opcode offset) ↔
    error.opcode.grammar? = none
  truncated : ∀ opcode offset needed available,
    error = .truncated opcode offset needed available →
      available < needed ∧ body.Shortfall opcode offset needed available
  invalid : ∀ opcode offset encoding, error = .invalidText opcode offset encoding →
    codec.strictText = true ∧ encoding = codec.encoding ∧ opcode.grammar? = some .text ∧
      offset + 4 + (body.uint16At (offset + 2)).toNat ≤ body.length ∧
      encoding.decodeExact
        ((body.drop (offset + 4)).take (body.uint16At (offset + 2)).toNat) = none

namespace Codec

variable {codec : Codec} {body : Bytes} {offset : Nat} {opcode : Opcode} {error : DecodeError}

theorem Refuses.unknown_iff {operands : Bytes} (h : codec.Refuses opcode offset operands error) :
    (∃ opcode offset, error = .unknownOpcode opcode offset) ↔ opcode.grammar? = none := by
  cases h with
  | unknownOpcode hgrammar | numbers hgrammar | lengthField hgrammar | payload hgrammar
  | text hgrammar => simp [hgrammar]

theorem Refuses.shortfall {found : Opcode} {place needed available : Nat}
    (hinside : offset + 2 ≤ body.length)
    (h : codec.Refuses opcode offset (body.drop (offset + 2))
      (.truncated found place needed available)) :
    available < needed ∧ body.Shortfall found place needed available := by
  generalize hrest : body.drop (offset + 2) = operands at h
  have hlength := congrArg List.length hrest
  rw [List.length_drop] at hlength
  cases h with
  | numbers hgrammar hshort => exact ⟨hshort, .numbers hgrammar (by omega)⟩
  | lengthField hgrammar hsized hshort => exact ⟨hshort, .lengthField hgrammar hsized (by omega)⟩
  | payload hgrammar hsized hshort =>
      rw [List.length_append, Bytes.length_ofUInt16] at hlength
      rw [← Bytes.uint16At_of_drop hrest] at hshort ⊢
      exact ⟨hshort, .payload hgrammar hsized (by omega)⟩

theorem Refuses.invalid {found : Opcode} {place : Nat} {encoding : Text.Encoding}
    (hinside : offset + 2 ≤ body.length)
    (h : codec.Refuses opcode offset (body.drop (offset + 2))
      (.invalidText found place encoding)) :
    codec.strictText = true ∧ encoding = codec.encoding ∧ found.grammar? = some .text ∧
      place + 4 + (body.uint16At (place + 2)).toNat ≤ body.length ∧
      encoding.decodeExact
        ((body.drop (place + 4)).take (body.uint16At (place + 2)).toNat) = none := by
  generalize hrest : body.drop (offset + 2) = operands at h
  have hlength := congrArg List.length hrest
  rw [List.length_drop] at hlength
  cases h with
  | @text declared bytes rest hgrammar hstrict hcount hinvalid =>
      have hpayload : body.drop (offset + 4) = bytes ++ rest := Bytes.drop_behind_uint16 hrest
      rw [List.length_append, List.length_append, Bytes.length_ofUInt16] at hlength
      rw [Bytes.uint16At_of_drop hrest, hpayload, List.take_left' hcount]
      exact ⟨hstrict, rfl, hgrammar, by omega, hinvalid⟩

theorem refuses_of_shortfall {needed available : Nat}
    (h : body.Shortfall opcode offset needed available) (hshort : available < needed) :
    codec.Refuses opcode offset (body.drop (offset + 2))
      (.truncated opcode offset needed available) := by
  cases h with
  | numbers hgrammar hlength =>
      obtain rfl : (body.drop (offset + 2)).length = available := by
        rw [List.length_drop]
        omega
      exact .numbers hgrammar hshort
  | lengthField hgrammar hsized hlength =>
      obtain rfl : (body.drop (offset + 2)).length = available := by
        rw [List.length_drop]
        omega
      exact .lengthField hgrammar hsized hshort
  | payload hgrammar hsized hlength =>
      obtain rfl : (body.drop (offset + 4)).length = available := by
        rw [List.length_drop]
        omega
      have hfield : offset + 2 + 2 ≤ body.length := by omega
      rw [Bytes.drop_eq_uint16At hfield]
      exact .payload hgrammar hsized hshort

theorem refuses_of_invalid (hgrammar : opcode.grammar? = some .text)
    (hstrict : codec.strictText = true)
    (hlength : offset + 4 + (body.uint16At (offset + 2)).toNat ≤ body.length)
    (hinvalid : codec.encoding.decodeExact
      ((body.drop (offset + 4)).take (body.uint16At (offset + 2)).toNat) = none) :
    codec.Refuses opcode offset (body.drop (offset + 2))
      (.invalidText opcode offset codec.encoding) := by
  have hfield : offset + 2 + 2 ≤ body.length := by omega
  have hcount : ((body.drop (offset + 4)).take (body.uint16At (offset + 2)).toNat).length =
      (body.uint16At (offset + 2)).toNat := by
    rw [List.length_take, List.length_drop]
    omega
  rw [Bytes.drop_eq_uint16At hfield,
    ← List.take_append_drop (body.uint16At (offset + 2)).toNat (body.drop (offset + 2 + 2))]
  exact .text hgrammar hstrict hcount hinvalid

theorem refuses_of_diagnoses (h : error.Diagnoses codec body) :
    codec.Refuses (body.uint16At error.offset) error.offset (body.drop (error.offset + 2))
      error := by
  rw [← h.opcode_eq]
  cases error with
  | unknownOpcode opcode offset =>
      exact .unknownOpcode (h.unknown_iff.mp ⟨opcode, offset, rfl⟩)
  | truncated opcode offset needed available =>
      obtain ⟨hshort, hfall⟩ := h.truncated opcode offset needed available rfl
      exact refuses_of_shortfall hfall hshort
  | invalidText opcode offset encoding =>
      obtain ⟨hstrict, rfl, hgrammar, hlength, hinvalid⟩ := h.invalid opcode offset encoding rfl
      exact refuses_of_invalid hgrammar hstrict hlength hinvalid

/-- A run ends with an error exactly when the error tells what is wrong with the
body. -/
theorem error_run_iff (codec : Codec) (body : Bytes) (error : DecodeError) :
    (codec.run body).error? = some error ↔ error.Diagnoses codec body := by
  constructor
  · intro h
    obtain ⟨hcomes, hrefuses⟩ := comesTo_of_error h
    obtain ⟨last, hrun⟩ := hcomes.run_of_refuses hrefuses
    exact
      { inside := hcomes.inside
        opcode_eq := hrefuses.opcode_eq
        front_eq := by
          rw [hrun]
          exact hcomes.run_take
        unknown_iff := by
          rw [hrefuses.opcode_eq]
          exact hrefuses.unknown_iff
        truncated := by
          rintro opcode offset needed available rfl
          exact hrefuses.shortfall hcomes.inside
        invalid := by
          rintro opcode offset encoding rfl
          exact hrefuses.invalid hcomes.inside }
  · intro h
    have hcomes : codec.ComesTo body error.offset :=
      ⟨h.inside, by rw [h.front_eq], by rw [h.front_eq]; rfl⟩
    obtain ⟨last, hrun⟩ := hcomes.run_of_refuses (refuses_of_diagnoses h)
    rw [hrun]

-- Three of the eight bytes that two elements of a table take.
example : (run {} [0x3A, 8, 7, 0, 0x50, 8, 2, 0, 1, 2, 3]).error? =
    some (.truncated 0x850 4 8 3) := by
  decide +kernel

end Codec

end MajiroScript
