import MajiroScript.Proofs.Runs

/-! Reading and writing instructions are inverse to each other: what was read is
written back to the same bytes, and the canonical instructions are the ones that
come back from their own records. -/
namespace MajiroScript

namespace Codec

theorem encodeAll_of_yields {codec : Codec} {body : Bytes} {steps : List Step} {reader : Reader}
    (h : (Reader.ofBody codec body).Yields steps reader) :
    reader.position ≤ body.length ∧
      codec.encodeAll (steps.map Step.instruction) = .ok (body.take reader.position) := by
  obtain ⟨-, bytes, cursor, hbytes, ⟨hbody, hposition⟩, rfl⟩ := h.advances
  have hbody : body = bytes ++ cursor.rest := hbody
  have hposition : cursor.position = bytes.length := hposition.trans (Nat.zero_add _)
  change cursor.position ≤ body.length ∧ codec.encodeAll _ = .ok (body.take cursor.position)
  rw [hposition, hbody, List.take_left, List.length_append]
  exact ⟨Nat.le_add_right _ _, hbytes⟩

/-- At every point of a run, the instructions so far are written to the bytes
gone through.  For the whole run these are all bytes but the remainder, or the
bytes before the instruction that cannot be read. -/
theorem encodeAll_run (codec : Codec) (body : Bytes) :
    (∀ steps reader, (Reader.ofBody codec body).Yields steps reader →
      reader.position ≤ body.length ∧
        codec.encodeAll (steps.map Step.instruction) = .ok (body.take reader.position)) ∧
    ∃ reader, (Reader.ofBody codec body).Yields (codec.run body).steps reader ∧
      match (codec.run body).error? with
      | none =>
          ∃ bytes, codec.encodeAll (codec.run body).instructions = .ok bytes ∧
            body = bytes ++ (codec.run body).last.remainder ∧
            (codec.run body).last.remainder.length < 2
      | some error =>
          error.offset = reader.position ∧
            codec.encodeAll (codec.run body).instructions = .ok (body.take error.offset) := by
  refine ⟨fun steps reader h => encodeAll_of_yields h, ?_⟩
  obtain ⟨reader, hsteps, hend⟩ := (Reader.ofBody codec body).yields_run
  refine ⟨reader, hsteps, ?_⟩
  split
  · rename_i hnone
    obtain ⟨-, hshort, bytes, hbytes, hbody⟩ :=
      run_result_iff.mp ⟨Run.result_eq_ok_iff.mpr ⟨hnone, rfl⟩, rfl⟩
    exact ⟨bytes, hbytes, hbody.symm, hshort⟩
  · rename_i error hsome
    have hstop : (Reader.ofBody codec body).run.error? = some error := hsome
    rw [hstop] at hend
    have hoffset := Reader.offset_of_next hend
    rw [hoffset]
    exact ⟨rfl, (encodeAll_of_yields hsteps).2⟩

theorem encodeAll_run_unknown_opcode :
    (Reader.ofBody ⟨.utf8, false⟩ [0x01, 0x08, 0x02, 0x00, 0xC3, 0xA9, 0xFF, 0xFF]).Yields
        [⟨⟨0x801, [⟨2, true, .text "é"⟩]⟩, 0, 6⟩] ⟨⟨.utf8, false⟩, ⟨6, [0xFF, 0xFF]⟩, false⟩ ∧
      encodeAll ⟨.utf8, false⟩ [⟨0x801, [⟨2, true, .text "é"⟩]⟩] =
        .ok [0x01, 0x08, 0x02, 0x00, 0xC3, 0xA9] := by
  have hnext : (Reader.ofBody ⟨.utf8, false⟩
      [0x01, 0x08, 0x02, 0x00, 0xC3, 0xA9, 0xFF, 0xFF]).next =
        (some (.ok ⟨0x801, [⟨2, true, .text "é"⟩]⟩),
          ⟨⟨.utf8, false⟩, ⟨6, [0xFF, 0xFF]⟩, false⟩) := by
    decide +kernel
  have hsteps := Reader.Yields.cons hnext (.nil _)
  exact ⟨hsteps, ((encodeAll_run _ _).1 _ _ hsteps).2⟩

/-- The canonical instructions are those that some body gives, and those that
come back from what they are written to. -/
theorem canonical_iff_decodeAll (codec : Codec) (instructions : List Instruction) :
    ((∀ instruction ∈ instructions, codec.Canonical instruction) ↔
      ∃ body, codec.decodeAll body = .ok instructions) ∧
    ((∀ instruction ∈ instructions, codec.Canonical instruction) ↔
      ∃ bytes, codec.encodeAll instructions = .ok bytes ∧
        codec.decodeAll bytes = .ok instructions) := by
  have hwritten : (∀ instruction ∈ instructions, codec.Canonical instruction) →
      ∃ bytes, codec.encodeAll instructions = .ok bytes ∧
        codec.decodeAll bytes = .ok instructions := by
    intro hcanonical
    obtain ⟨bytes, hbytes⟩ := exists_encodeAll_of_canonical hcanonical
    have hread : codec.decodeAll bytes = .ok instructions :=
      decodeAll_eq_ok_iff.mpr
        ⟨hcanonical, bytes, [], hbytes, Nat.two_pos, List.append_nil bytes⟩
    exact ⟨bytes, hbytes, hread⟩
  have hgiven : ∀ {body}, codec.decodeAll body = .ok instructions →
      ∀ instruction ∈ instructions, codec.Canonical instruction := by
    intro body hread
    exact (decodeAll_eq_ok_iff.mp hread).1
  refine ⟨⟨fun h => ?_, fun ⟨body, hread⟩ => hgiven hread⟩,
    hwritten, fun ⟨bytes, _, hread⟩ => hgiven hread⟩
  obtain ⟨bytes, -, hread⟩ := hwritten h
  exact ⟨bytes, hread⟩

-- Bytes that are text can be written, but they are read as text.
example : encode ⟨.utf8, false⟩ ⟨0x801, [⟨1, true, .raw [0x41]⟩]⟩ = .ok [1, 8, 1, 0, 0x41] ∧
    ¬ Canonical ⟨.utf8, false⟩ ⟨0x801, [⟨1, true, .raw [0x41]⟩]⟩ := by
  decide +kernel

end Codec

end MajiroScript
