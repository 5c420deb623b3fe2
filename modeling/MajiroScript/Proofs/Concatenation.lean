import MajiroScript.Proofs.Calls

/-! Bodies that stand one behind the other.  A reader looks neither back nor past
the end of an instruction, so the run of a body goes on behind another one as if
it had started there, with its offsets moved. -/
namespace MajiroScript

def Cursor.shift (cursor : Cursor) (distance : Nat) : Cursor :=
  ⟨cursor.position + distance, cursor.rest⟩

def Cursor.extend (cursor : Cursor) (more : Bytes) : Cursor :=
  ⟨cursor.position, cursor.rest ++ more⟩

def DecodeError.shift (error : DecodeError) (distance : Nat) : DecodeError :=
  match error with
  | unknownOpcode opcode offset => unknownOpcode opcode (offset + distance)
  | truncated opcode offset needed available =>
      truncated opcode (offset + distance) needed available
  | invalidText opcode offset encoding => invalidText opcode (offset + distance) encoding

def Step.shift (step : Step) (distance : Nat) : Step :=
  { step with start := step.start + distance, stop := step.stop + distance }

def Reader.shift (reader : Reader) (distance : Nat) : Reader :=
  { reader with cursor := reader.cursor.shift distance }

def Reader.extend (reader : Reader) (more : Bytes) : Reader :=
  { reader with cursor := reader.cursor.extend more }

namespace Cursor

variable (cursor : Cursor) (distance : Nat)

theorem take?_shift (count : Nat) :
    (cursor.shift distance).take? count =
      (cursor.take? count).map fun (bytes, after) => (bytes, after.shift distance) := by
  cases htake : cursor.take? count with
  | none =>
      have hshort := take?_eq_none_iff.mp htake
      exact take?_eq_none_iff.mpr hshort
  | some taken =>
      obtain ⟨hcount, hbytes, hafter⟩ := take?_eq_some_iff.mp htake
      refine take?_eq_some_iff.mpr ⟨hcount, hbytes, ?_⟩
      rw [hafter, shift, Nat.add_right_comm]
      rfl

theorem readUInt16?_shift :
    (cursor.shift distance).readUInt16? =
      cursor.readUInt16?.map fun (value, after) => (value, after.shift distance) := by
  simp only [readUInt16?, take?_shift, Option.map_map]
  rfl

theorem readUInt?_shift (width : Nat) :
    (cursor.shift distance).readUInt? width =
      (cursor.readUInt? width).map fun (value, after) => (value, after.shift distance) := by
  simp only [readUInt?, take?_shift, Option.map_map]
  rfl

theorem readUInts?_shift (widths : List UInt16) :
    (cursor.shift distance).readUInts? widths =
      (cursor.readUInts? widths).map fun (values, after) => (values, after.shift distance) := by
  induction widths generalizing cursor with
  | nil => rfl
  | cons width widths ih =>
      simp only [readUInts?, readUInt?_shift]
      cases cursor.readUInt? width.toNat with
      | none => rfl
      | some first =>
          simp only [Option.map_some, Option.bind_eq_bind, Option.bind_some, ih]
          cases first.2.readUInts? widths with
          | none => rfl
          | some others => rfl

theorem Advances.extend {cursor after : Cursor} {bytes : Bytes} (h : cursor.Advances bytes after)
    (more : Bytes) : (cursor.extend more).Advances bytes (after.extend more) := by
  obtain ⟨hrest, hposition⟩ := h
  refine ⟨?_, hposition⟩
  simp only [Cursor.extend, hrest, List.append_assoc]

end Cursor

namespace Codec

variable (codec : Codec) (opcode : Opcode) (offset distance : Nat)

theorem sizedPayload_shift (grammar : Grammar) (bytes : Bytes) :
    codec.sizedPayload opcode (offset + distance) grammar bytes =
      (codec.sizedPayload opcode offset grammar bytes).mapError (·.shift distance) := by
  cases grammar with
  | text =>
      simp only [sizedPayload, textPayload]
      split
      · rfl
      · split
        · rfl
        · rfl
  | bare | fixed | raw | table => rfl

theorem readSized_shift (grammar : Grammar) (cursor : Cursor) :
    codec.readSized opcode (offset + distance) grammar (cursor.shift distance) =
      ((codec.readSized opcode offset grammar cursor).1.mapError (·.shift distance),
        (codec.readSized opcode offset grammar cursor).2.shift distance) := by
  simp only [readSized, Cursor.readUInt16?_shift]
  cases cursor.readUInt16? with
  | none => rfl
  | some field =>
      obtain ⟨declared, behindLength⟩ := field
      simp only [Option.map_some, Cursor.take?_shift]
      cases behindLength.take? (grammar.payloadLength declared) with
      | none => rfl
      | some taken =>
          obtain ⟨bytes, after⟩ := taken
          simp only [Option.map_some, sizedPayload_shift]
          cases codec.sizedPayload opcode offset grammar bytes with
          | error error => rfl
          | ok payload => rfl

theorem readOperands_shift (grammar : Grammar) (cursor : Cursor) :
    codec.readOperands opcode (offset + distance) grammar (cursor.shift distance) =
      ((codec.readOperands opcode offset grammar cursor).1.mapError (·.shift distance),
        (codec.readOperands opcode offset grammar cursor).2.shift distance) := by
  cases grammar with
  | bare => rfl
  | fixed widths =>
      simp only [readOperands, Cursor.readUInts?_shift]
      cases cursor.readUInts? widths with
      | none => rfl
      | some read => rfl
  | text => exact readSized_shift ..
  | raw => exact readSized_shift ..
  | table stride => exact readSized_shift ..

theorem readInstruction_shift (cursor : Cursor) :
    codec.readInstruction opcode (offset + distance) (cursor.shift distance) =
      ((codec.readInstruction opcode offset cursor).1.mapError (·.shift distance),
        (codec.readInstruction opcode offset cursor).2.shift distance) := by
  simp only [readInstruction]
  cases opcode.grammar? with
  | none => rfl
  | some grammar =>
      simp only [readOperands_shift]
      cases (codec.readOperands opcode offset grammar cursor).1 with
      | error error => rfl
      | ok operands => rfl

end Codec

namespace Reader

/-- Only offsets tell how far into a body a reader is. -/
theorem next_shift (reader : Reader) (distance : Nat) :
    (reader.shift distance).next =
      (reader.next.1.map (·.mapError (·.shift distance)), reader.next.2.shift distance) := by
  simp only [next]
  by_cases hfailed : reader.failed
  · simp [shift, hfailed]
  · have hstill : ¬ (reader.shift distance).failed := hfailed
    have hopcode : (reader.shift distance).cursor.readUInt16? =
        reader.cursor.readUInt16?.map fun (value, after) => (value, after.shift distance) :=
      Cursor.readUInt16?_shift ..
    simp only [if_neg hfailed, if_neg hstill, hopcode]
    cases reader.cursor.readUInt16? with
    | none => rfl
    | some found =>
        obtain ⟨opcode, behindOpcode⟩ := found
        have hread : (reader.shift distance).codec.readInstruction opcode
            (reader.shift distance).position (behindOpcode.shift distance) = _ :=
          Codec.readInstruction_shift reader.codec opcode reader.position distance behindOpcode
        simp only [Option.map_some, hread]
        rcases reader.codec.readInstruction opcode reader.position behindOpcode with
          ⟨_ | instruction, after⟩
        · rfl
        · rfl

theorem Yields.shift {reader last : Reader} {steps : List Step} (h : reader.Yields steps last)
    (distance : Nat) :
    (reader.shift distance).Yields (steps.map (·.shift distance)) (last.shift distance) := by
  induction h with
  | nil reader => exact .nil _
  | @cons reader after last instruction steps first _ ih =>
      have hnext := reader.next_shift distance
      rw [first] at hnext
      exact (Yields.cons hnext ih :)

theorem run_shift (reader : Reader) (distance : Nat) :
    (reader.shift distance).run =
      { steps := reader.run.steps.map (·.shift distance)
        error? := reader.run.error?.map (·.shift distance)
        last := reader.run.last.shift distance } := by
  obtain ⟨middle, hsteps, hend⟩ := reader.yields_run
  refine (hsteps.shift distance).run_eq ?_
  rw [next_shift, hend, Option.map_map, Option.map_map]
  rfl

/-- What stands behind an instruction has no say in it. -/
theorem next_extend {reader after : Reader} {instruction : Instruction}
    (h : reader.next = (some (.ok instruction), after)) (more : Bytes) :
    (reader.extend more).next = (some (.ok instruction), after.extend more) := by
  obtain ⟨hgood, hcanonical, record, cursor, hrecord, hadvances, rfl⟩ := next_eq_ok_iff.mp h
  exact next_eq_ok_iff.mpr
    ⟨hgood, hcanonical, record, _, hrecord, hadvances.extend more, rfl⟩

theorem Yields.extend {reader last : Reader} {steps : List Step} (h : reader.Yields steps last)
    (more : Bytes) : (reader.extend more).Yields steps (last.extend more) := by
  induction h with
  | nil reader => exact .nil _
  | cons first _ ih => exact (Yields.cons (next_extend first more) ih :)

theorem Yields.run_eq_append {reader middle : Reader} {steps : List Step}
    (h : reader.Yields steps middle) :
    reader.run = { middle.run with steps := steps ++ middle.run.steps } := by
  obtain ⟨stop, hsteps, hend⟩ := middle.yields_run
  exact (yields_append_iff.mpr ⟨middle, h, hsteps⟩).run_eq hend

end Reader

namespace Codec

theorem yields_append {codec : Codec} {front : Bytes} (hgood : (codec.run front).error? = none)
    (hwhole : (codec.run front).last.remainder = []) (behind : Bytes) :
    (Reader.ofBody codec (front ++ behind)).Yields (codec.run front).steps
      ((Reader.ofBody codec behind).shift front.length) := by
  obtain ⟨middle, hsteps, hend⟩ := (Reader.ofBody codec front).yields_run
  have hnone : (Reader.ofBody codec front).run.error? = none := hgood
  rw [hnone] at hend
  obtain ⟨hlast, -⟩ := Reader.next_eq_none_iff.mp hend
  obtain ⟨-, bytes, cursor, -, ⟨hrest, hposition⟩, rfl⟩ := hsteps.advances
  have hempty : cursor.rest = [] := by
    rw [← hwhole]
    exact (congrArg Reader.remainder hlast).symm
  have hfront : front = bytes := by
    rw [hempty, List.append_nil] at hrest
    exact hrest
  have hextended := hsteps.extend behind
  have hstart : (Reader.ofBody codec front).extend behind =
      Reader.ofBody codec (front ++ behind) := rfl
  have hstop : Reader.extend { Reader.ofBody codec front with cursor } behind =
      (Reader.ofBody codec behind).shift front.length := by
    simp only [Reader.extend, Cursor.extend, hposition, hempty, hfront, List.nil_append]
    rfl
  rwa [hstart, hstop] at hextended

/-- Behind a body that is read to its last byte, another body is read as it is
alone.  Only its offsets are moved, also that of an error. -/
theorem run_append {codec : Codec} {front : Bytes} (hgood : (codec.run front).error? = none)
    (hwhole : (codec.run front).last.remainder = []) (behind : Bytes) :
    codec.run (front ++ behind) =
      { steps := (codec.run front).steps ++ (codec.run behind).steps.map (·.shift front.length)
        error? := (codec.run behind).error?.map (·.shift front.length)
        last := (codec.run behind).last.shift front.length } ∧
    (codec.run (front ++ behind)).last.remainder = (codec.run behind).last.remainder := by
  have hrun : codec.run (front ++ behind) = _ := (yields_append hgood hwhole behind).run_eq_append
  rw [hrun, Reader.run_shift]
  exact ⟨rfl, rfl⟩

theorem run_append_truncated :
    (run ⟨.utf8, true⟩ [0x3A, 8, 7, 0]).error? = none ∧
      (run ⟨.utf8, true⟩ [0x3A, 8, 7, 0]).last.remainder = [] ∧
      (run ⟨.utf8, true⟩ [0x2B, 8, 1, 8, 4, 0, 0x41, 0x42]).error? =
        some (.truncated 0x801 2 4 2) ∧
      (run ⟨.utf8, true⟩ ([0x3A, 8, 7, 0] ++ [0x2B, 8, 1, 8, 4, 0, 0x41, 0x42])).steps =
        [⟨⟨0x83A, [.numeric 2 7]⟩, 0, 4⟩, ⟨⟨0x82B, []⟩, 4, 6⟩] ∧
      (run ⟨.utf8, true⟩ ([0x3A, 8, 7, 0] ++ [0x2B, 8, 1, 8, 4, 0, 0x41, 0x42])).error? =
        some (.truncated 0x801 6 4 2) := by
  have hgood : (run ⟨.utf8, true⟩ [0x3A, 8, 7, 0]).error? = none := by decide +kernel
  have hwhole : (run ⟨.utf8, true⟩ [0x3A, 8, 7, 0]).last.remainder = [] := by decide +kernel
  have hsteps : (run ⟨.utf8, true⟩ [0x3A, 8, 7, 0]).steps =
      [⟨⟨0x83A, [.numeric 2 7]⟩, 0, 4⟩] := by
    decide +kernel
  have hbehind : (run ⟨.utf8, true⟩ [0x2B, 8, 1, 8, 4, 0, 0x41, 0x42]).steps =
      [⟨⟨0x82B, []⟩, 0, 2⟩] := by
    decide +kernel
  have herror : (run ⟨.utf8, true⟩ [0x2B, 8, 1, 8, 4, 0, 0x41, 0x42]).error? =
      some (.truncated 0x801 2 4 2) := by
    decide +kernel
  refine ⟨hgood, hwhole, herror, ?_⟩
  rw [(run_append hgood hwhole _).1, hsteps, hbehind, herror]
  exact ⟨rfl, rfl⟩

end Codec

end MajiroScript
