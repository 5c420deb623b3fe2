import MajiroScript.Proofs.Canonical
import MajiroScript.Proofs.Refusals

/-! Runs of a reader.  At every point of a run, what the reader has given is
written to the bytes that it has gone through, and reading those bytes again
gives the same instructions. -/
namespace MajiroScript

open Outcome

namespace Reader

/-- A step gives a canonical instruction whose record stands ahead of the
reader, and goes past that record. -/
theorem next_eq_ok_iff {reader after : Reader} {instruction : Instruction} :
    reader.next = (some (.ok instruction), after) ↔
      reader.failed = false ∧ reader.codec.Canonical instruction ∧
        ∃ record cursor, reader.codec.encode instruction = .ok record ∧
          reader.cursor.Advances record cursor ∧ after = { reader with cursor } := by
  constructor
  · intro h
    unfold next at h
    split at h
    · cases h
    · rename_i hgood
      split at h
      · cases h
      · rename_i opcode behindOpcode hopcode
        split at h
        · rename_i instruction cursor hread
          cases h
          obtain ⟨rfl, hcanonical, fields, hfields, hbehind⟩ :=
            Codec.readInstruction_eq_ok_iff.mp hread
          have hfront := Cursor.readUInt16?_eq_some_iff.mp hopcode
          exact ⟨by simpa using hgood, hcanonical, _, cursor,
            Codec.encode_eq_ok_iff.mpr ⟨fields, hfields, rfl⟩,
            Cursor.advances_append.mpr ⟨behindOpcode, hfront, hbehind⟩, rfl⟩
        · cases h
  · rintro ⟨hgood, hcanonical, record, cursor, hrecord, hadvances, rfl⟩
    obtain ⟨fields, hfields, rfl⟩ := Codec.encode_eq_ok_iff.mp hrecord
    obtain ⟨behindOpcode, hfront, hbehind⟩ := Cursor.advances_append.mp hadvances
    have hread : reader.codec.readInstruction instruction.opcode reader.position behindOpcode =
        (.ok instruction, cursor) :=
      Codec.readInstruction_eq_ok_iff.mpr ⟨rfl, hcanonical, fields, hfields, hbehind⟩
    unfold next
    rw [hgood, Cursor.readUInt16?_eq_some_iff.mpr hfront]
    simp only [Bool.false_eq_true, if_false, hread]

theorem next_eq_none_iff {reader last : Reader} :
    reader.next = (none, last) ↔
      last = reader ∧ (reader.failed = true ∨ reader.remainder.length < 2) := by
  unfold next
  split
  · rename_i hfailed
    simp only [hfailed, Prod.mk.injEq, true_and, true_or, and_true]
    exact eq_comm
  · rename_i hgood
    split
    · rename_i hnone
      have hshort : reader.remainder.length < 2 := Cursor.readUInt16?_eq_none_iff.mp hnone
      simp only [hshort, Prod.mk.injEq, true_and, or_true, and_true]
      exact eq_comm
    · rename_i opcode behindOpcode hopcode
      have hlong : ¬ reader.remainder.length < 2 := by
        have h := Cursor.remaining_of_readUInt16? hopcode
        unfold Cursor.remaining at h
        unfold remainder
        omega
      split <;> simp [hgood, hlong]

theorem offset_of_next {reader last : Reader} {error : DecodeError}
    (h : reader.next = (some (.error error), last)) : error.offset = reader.position := by
  obtain ⟨-, opcode, operands, -, hrefuses⟩ := next_eq_error_iff.mp (congrArg Prod.fst h)
  exact hrefuses.offset_eq

/-- The reader gives these steps one after another, which leads to `last`. -/
inductive Yields : Reader → List Step → Reader → Prop where
  | nil (reader : Reader) : Yields reader [] reader
  | cons {reader after last : Reader} {instruction : Instruction} {steps : List Step}
      (first : reader.next = (some (.ok instruction), after))
      (others : Yields after steps last) :
      Yields reader (⟨instruction, reader.position, after.position⟩ :: steps) last

theorem Yields.advances {reader last : Reader} {steps : List Step}
    (h : reader.Yields steps last) :
    (∀ instruction ∈ steps.map Step.instruction, reader.codec.Canonical instruction) ∧
      ∃ bytes cursor, reader.codec.encodeAll (steps.map Step.instruction) = .ok bytes ∧
        reader.cursor.Advances bytes cursor ∧ last = { reader with cursor } := by
  induction h with
  | nil reader => exact ⟨by simp, [], reader.cursor, rfl, by simp, rfl⟩
  | cons first _ ih =>
      obtain ⟨-, hcanonical, record, middle, hrecord, hfirst, rfl⟩ := next_eq_ok_iff.mp first
      obtain ⟨hothers, bytes, cursor, hbytes, hrest, rfl⟩ := ih
      refine ⟨?_, record ++ bytes, cursor, ?_, ?_, rfl⟩
      · intro instruction hmem
        rcases List.mem_cons.mp hmem with rfl | hmem
        · exact hcanonical
        · exact hothers instruction hmem
      · exact Codec.encodeAll_cons_eq_ok_iff.mpr ⟨record, bytes, hrecord, hbytes, rfl⟩
      · exact Cursor.advances_append.mpr ⟨middle, hfirst, hrest⟩

theorem codec_of_next {reader after : Reader} {instruction : Instruction}
    (h : reader.next = (some (.ok instruction), after)) : after.codec = reader.codec := by
  obtain ⟨-, -, record, cursor, -, -, rfl⟩ := next_eq_ok_iff.mp h
  rfl

theorem Yields.codec_eq {reader last : Reader} {steps : List Step}
    (h : reader.Yields steps last) : last.codec = reader.codec := by
  obtain ⟨-, bytes, cursor, -, -, rfl⟩ := h.advances
  rfl

theorem yields_append_iff {reader last : Reader} {front behind : List Step} :
    reader.Yields (front ++ behind) last ↔
      ∃ middle, reader.Yields front middle ∧ middle.Yields behind last := by
  constructor
  · intro h
    induction front generalizing reader with
    | nil => exact ⟨reader, .nil reader, h⟩
    | cons step front ih =>
        cases h with
        | cons first others =>
            obtain ⟨middle, hfront, hbehind⟩ := ih others
            exact ⟨middle, .cons first hfront, hbehind⟩
  · rintro ⟨middle, hfront, hbehind⟩
    induction hfront with
    | nil reader => exact hbehind
    | cons first _ ih => exact .cons first (ih hbehind)

theorem exists_yields {reader : Reader} {instructions : List Instruction} {bytes : Bytes}
    {cursor : Cursor} (hgood : reader.failed = false)
    (hcanonical : ∀ instruction ∈ instructions, reader.codec.Canonical instruction)
    (hbytes : reader.codec.encodeAll instructions = .ok bytes)
    (hadvances : reader.cursor.Advances bytes cursor) :
    ∃ steps, steps.map Step.instruction = instructions ∧
      reader.Yields steps { reader with cursor } := by
  induction instructions generalizing reader bytes with
  | nil =>
      cases hbytes
      obtain rfl := Cursor.advances_nil.mp hadvances
      exact ⟨[], rfl, .nil reader⟩
  | cons instruction instructions ih =>
      obtain ⟨record, bytes, hrecord, hothers, rfl⟩ := Codec.encodeAll_cons_eq_ok_iff.mp hbytes
      obtain ⟨middle, hfirst, hrest⟩ := Cursor.advances_append.mp hadvances
      have hnext : reader.next = (some (.ok instruction), { reader with cursor := middle }) :=
        next_eq_ok_iff.mpr ⟨hgood, hcanonical instruction List.mem_cons_self, record, middle,
          hrecord, hfirst, rfl⟩
      have htail : ∀ instruction ∈ instructions, reader.codec.Canonical instruction :=
        fun instruction hmem => hcanonical instruction (List.mem_cons_of_mem _ hmem)
      have hstill : ({ reader with cursor := middle } : Reader).failed = false := hgood
      obtain ⟨steps, rfl, hsteps⟩ := ih hstill htail hothers hrest
      exact ⟨_, rfl, .cons hnext hsteps⟩

theorem yields_runFrom (reader : Reader) (before : List Step) :
    ∃ steps middle, reader.Yields steps middle ∧
      (reader.runFrom before).steps = before.reverse ++ steps ∧
      middle.next = ((reader.runFrom before).error?.map .error, (reader.runFrom before).last) := by
  fun_induction runFrom reader before with
  | case1 reader before last hnext => exact ⟨[], reader, .nil reader, by simp, hnext⟩
  | case2 reader before error last hnext => exact ⟨[], reader, .nil reader, by simp, hnext⟩
  | case3 reader before instruction after hnext ih =>
      obtain ⟨steps, middle, hsteps, hrun, hlast⟩ := ih
      refine ⟨_, middle, .cons hnext hsteps, ?_, hlast⟩
      rw [hrun, List.reverse_cons, List.append_assoc, List.singleton_append]

theorem yields_run (reader : Reader) :
    ∃ middle, reader.Yields reader.run.steps middle ∧
      middle.next = (reader.run.error?.map .error, reader.run.last) := by
  obtain ⟨steps, middle, hsteps, hrun, hlast⟩ := yields_runFrom reader []
  have hall : reader.run.steps = steps := hrun
  exact ⟨middle, hall ▸ hsteps, hlast⟩

theorem Yields.runFrom_eq {reader middle last : Reader} {steps : List Step}
    {error? : Option DecodeError} (h : reader.Yields steps middle)
    (hend : middle.next = (error?.map .error, last)) (before : List Step) :
    reader.runFrom before = ⟨before.reverse ++ steps, error?, last⟩ := by
  induction h generalizing before with
  | nil reader =>
      rw [runFrom, List.append_nil]
      split
      all_goals
        rename_i hnext
        cases error?
        all_goals cases hend.symm.trans hnext
      all_goals rfl
  | cons first _ ih =>
      rw [runFrom]
      split
      all_goals
        rename_i hnext
        cases first.symm.trans hnext
      rw [ih hend, List.reverse_cons, List.append_assoc, List.singleton_append]

theorem Yields.run_eq {reader middle last : Reader} {steps : List Step}
    {error? : Option DecodeError} (h : reader.Yields steps middle)
    (hend : middle.next = (error?.map .error, last)) : reader.run = ⟨steps, error?, last⟩ :=
  h.runFrom_eq hend []

end Reader

theorem Run.result_eq_ok_iff {run : Run} {instructions : List Instruction} :
    run.result = .ok instructions ↔ run.error? = none ∧ run.instructions = instructions := by
  unfold result
  split
  · rename_i hnone
    simp [hnone]
  · rename_i hsome
    simp [hsome]

theorem Run.result_eq_error_iff {run : Run} {error : DecodeError} :
    run.result = .error error ↔ run.error? = some error := by
  unfold result
  split
  · rename_i hnone
    simp [hnone]
  · rename_i hsome
    simp [hsome]

namespace Codec

theorem run_result_iff {codec : Codec} {body rest : Bytes} {instructions : List Instruction} :
    ((codec.run body).result = .ok instructions ∧ (codec.run body).last.remainder = rest) ↔
      (∀ instruction ∈ instructions, codec.Canonical instruction) ∧ rest.length < 2 ∧
        ∃ bytes, codec.encodeAll instructions = .ok bytes ∧ bytes ++ rest = body := by
  constructor
  · rintro ⟨hresult, rfl⟩
    obtain ⟨hnone, rfl⟩ := Run.result_eq_ok_iff.mp hresult
    obtain ⟨middle, hsteps, hend⟩ := (Reader.ofBody codec body).yields_run
    obtain ⟨hcanonical, bytes, cursor, hbytes, hadvances, rfl⟩ := hsteps.advances
    have hstop : (Reader.ofBody codec body).run.error? = none := hnone
    rw [hstop] at hend
    obtain ⟨hlast, hshort⟩ := Reader.next_eq_none_iff.mp hend
    have hremainder : (codec.run body).last.remainder = cursor.rest :=
      congrArg Reader.remainder hlast
    rw [hremainder]
    exact ⟨hcanonical, hshort.resolve_left Bool.false_ne_true, bytes, hbytes, hadvances.1.symm⟩
  · rintro ⟨hcanonical, hshort, bytes, hbytes, rfl⟩
    have hadvances : (Reader.ofBody codec (bytes ++ rest)).cursor.Advances bytes
        ⟨bytes.length, rest⟩ :=
      ⟨rfl, (Nat.zero_add bytes.length).symm⟩
    have hgood : (Reader.ofBody codec (bytes ++ rest)).failed = false := rfl
    obtain ⟨steps, rfl, hsteps⟩ := Reader.exists_yields hgood hcanonical hbytes hadvances
    have hend : Reader.next ⟨codec, ⟨bytes.length, rest⟩, false⟩ =
        (none, ⟨codec, ⟨bytes.length, rest⟩, false⟩) :=
      Reader.next_eq_none_iff.mpr ⟨rfl, .inr hshort⟩
    have hrun : codec.run (bytes ++ rest) =
        ⟨steps, none, ⟨codec, ⟨bytes.length, rest⟩, false⟩⟩ :=
      hsteps.run_eq hend
    rw [hrun]
    exact ⟨rfl, rfl⟩

theorem decodeAll_eq_ok_iff {codec : Codec} {body : Bytes} {instructions : List Instruction} :
    codec.decodeAll body = .ok instructions ↔
      (∀ instruction ∈ instructions, codec.Canonical instruction) ∧
        ∃ bytes rest, codec.encodeAll instructions = .ok bytes ∧ rest.length < 2 ∧
          bytes ++ rest = body := by
  constructor
  · intro h
    obtain ⟨hcanonical, hshort, bytes, hbytes, hbody⟩ := run_result_iff.mp ⟨h, rfl⟩
    exact ⟨hcanonical, bytes, _, hbytes, hshort, hbody⟩
  · rintro ⟨hcanonical, bytes, rest, hbytes, hshort, hbody⟩
    exact (run_result_iff.mpr ⟨hcanonical, hshort, bytes, hbytes, hbody⟩).1

end Codec

end MajiroScript
