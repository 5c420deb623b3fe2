import MajiroScript.Proofs.Runs

/-! A reader that is called again and again.  It goes forward by whole
instructions, gives at most one error, and once it has nothing to give or has
given an error it stays where it is. -/
namespace MajiroScript

open Outcome

namespace Cursor

/-- The bytes ahead of one cursor end with those ahead of another one. -/
def Reaches (cursor after : Cursor) : Prop :=
  ∃ bytes, cursor.Advances bytes after

theorem reaches_refl (cursor : Cursor) : cursor.Reaches cursor :=
  ⟨[], advances_nil.mpr rfl⟩

theorem Reaches.trans {cursor middle after : Cursor} (first : cursor.Reaches middle)
    (second : middle.Reaches after) : cursor.Reaches after := by
  obtain ⟨front, hfront⟩ := first
  obtain ⟨behind, hbehind⟩ := second
  exact ⟨front ++ behind, advances_append.mpr ⟨middle, hfront, hbehind⟩⟩

theorem Reaches.position_add_remaining {cursor after : Cursor} (h : cursor.Reaches after) :
    after.position + after.remaining = cursor.position + cursor.remaining := by
  obtain ⟨bytes, hrest, hposition⟩ := h
  rw [remaining, remaining, hrest, hposition, List.length_append]
  omega

theorem Reaches.of_ofBytes {bytes : Bytes} {after : Cursor} (h : (ofBytes bytes).Reaches after) :
    after.position ≤ bytes.length ∧ after.rest = bytes.drop after.position := by
  obtain ⟨front, hrest, hposition⟩ := h
  have hbytes : bytes = front ++ after.rest := hrest
  have hfront : after.position = front.length := hposition.trans (Nat.zero_add _)
  rw [hfront, hbytes, List.length_append, List.drop_left]
  exact ⟨Nat.le_add_right _ _, rfl⟩

theorem reaches_of_take? {cursor after : Cursor} {count : Nat} {bytes : Bytes}
    (h : cursor.take? count = some (bytes, after)) : cursor.Reaches after :=
  ⟨bytes, (take?_eq_some_iff_advances.mp h).2⟩

theorem reaches_of_readUInt16? {cursor after : Cursor} {value : UInt16}
    (h : cursor.readUInt16? = some (value, after)) : cursor.Reaches after :=
  ⟨_, readUInt16?_eq_some_iff.mp h⟩

theorem reaches_of_readUInt? {cursor after : Cursor} {width : Nat} {value : UInt32}
    (h : cursor.readUInt? width = some (value, after)) : cursor.Reaches after := by
  obtain ⟨⟨bytes, next⟩, htake, heq⟩ := Option.map_eq_some_iff.mp h
  obtain ⟨-, rfl⟩ := Prod.mk.injEq .. ▸ heq
  exact reaches_of_take? htake

theorem reaches_of_readUInts? {cursor after : Cursor} {widths : List UInt16}
    {values : List UInt32} (h : cursor.readUInts? widths = some (values, after)) :
    cursor.Reaches after := by
  induction widths generalizing cursor values with
  | nil =>
      cases h
      exact reaches_refl _
  | cons width widths ih =>
      simp only [readUInts?, Option.bind_eq_bind, Option.bind_eq_some_iff,
        Option.pure_def, Option.some.injEq, Prod.mk.injEq, Prod.exists] at h
      obtain ⟨value, next, hvalue, values, last, hvalues, -, rfl⟩ := h
      exact (reaches_of_readUInt? hvalue).trans (ih hvalues)

end Cursor

/-- The number of bytes that an instruction takes in a script: those of its
opcode and of its operands, with the length field if there is one. -/
def Instruction.Takes (instruction : Instruction) (count : Nat) : Prop :=
  ∃ grammar ∈ instruction.opcode.grammar?,
    match grammar with
    | .bare | .fixed _ => count = 2 + grammar.minOperandLength
    | .text | .raw | .table _ => ∃ operand, instruction.operands = [operand] ∧
        count = 4 + grammar.payloadLength operand.declaredLength

theorem Instruction.Takes.two_le {instruction : Instruction} {count : Nat}
    (h : instruction.Takes count) : 2 ≤ count := by
  obtain ⟨grammar, -, h⟩ := h
  split at h
  · omega
  · omega
  all_goals
    obtain ⟨operand, -, rfl⟩ := h
    omega

namespace Codec

theorem reaches_readSized (codec : Codec) (opcode : Opcode) (offset : Nat) (grammar : Grammar)
    (cursor : Cursor) : cursor.Reaches (codec.readSized opcode offset grammar cursor).2 := by
  -- Also a failing read has only gone forward.
  unfold readSized
  split
  · exact cursor.reaches_refl
  · rename_i declared behindLength hlength
    have hbehind := Cursor.reaches_of_readUInt16? hlength
    dsimp only
    split
    · exact hbehind
    · rename_i bytes after htake
      exact hbehind.trans (Cursor.reaches_of_take? htake)

theorem reaches_readOperands (codec : Codec) (opcode : Opcode) (offset : Nat) (grammar : Grammar)
    (cursor : Cursor) : cursor.Reaches (codec.readOperands opcode offset grammar cursor).2 := by
  cases grammar with
  | bare => exact cursor.reaches_refl
  | fixed widths =>
      unfold readOperands
      dsimp only
      split
      · rename_i values after hread
        exact Cursor.reaches_of_readUInts? hread
      · exact cursor.reaches_refl
  | text => exact reaches_readSized ..
  | raw => exact reaches_readSized ..
  | table stride => exact reaches_readSized ..

theorem reaches_readInstruction (codec : Codec) (opcode : Opcode) (offset : Nat)
    (cursor : Cursor) : cursor.Reaches (codec.readInstruction opcode offset cursor).2 := by
  unfold readInstruction
  split
  · exact cursor.reaches_refl
  · exact reaches_readOperands ..

section Takes

variable {codec : Codec} {opcode : Opcode} {offset : Nat} {grammar : Grammar}
  {cursor after : Cursor}

theorem takes_of_readSized {operands : List Operand}
    (h : codec.readSized opcode offset grammar cursor = (.ok operands, after)) :
    ∃ operand, operands = [operand] ∧
      after.remaining + (4 + grammar.payloadLength operand.declaredLength) =
        cursor.remaining + 2 := by
  obtain ⟨declared, bytes, payload, rfl, hlength, -, hrest, -⟩ := readSized_eq_ok_iff.mp h
  refine ⟨_, rfl, ?_⟩
  dsimp only
  rw [Cursor.remaining, Cursor.remaining, hrest, List.length_append, List.length_append,
    Bytes.length_ofUInt16, hlength]
  omega

theorem takes_of_readOperands {operands : List Operand}
    (hgrammar : opcode.grammar? = some grammar)
    (h : codec.readOperands opcode offset grammar cursor = (.ok operands, after)) :
    ∃ count, Instruction.Takes ⟨opcode, operands⟩ count ∧
      after.remaining + count = cursor.remaining + 2 := by
  cases grammar with
  | bare =>
      cases h
      exact ⟨2, ⟨.bare, hgrammar, rfl⟩, rfl⟩
  | fixed widths =>
      simp only [readOperands] at h
      split at h
      · rename_i values last hread
        cases h
        have hlast := Cursor.remaining_of_readUInts? hread
        refine ⟨_, ⟨.fixed widths, hgrammar, rfl⟩, ?_⟩
        rw [Grammar.minOperandLength]
        omega
      · cases h
  | text =>
      obtain ⟨operand, rfl, hcount⟩ := takes_of_readSized h
      exact ⟨_, ⟨.text, hgrammar, operand, rfl, rfl⟩, hcount⟩
  | raw =>
      obtain ⟨operand, rfl, hcount⟩ := takes_of_readSized h
      exact ⟨_, ⟨.raw, hgrammar, operand, rfl, rfl⟩, hcount⟩
  | table stride =>
      obtain ⟨operand, rfl, hcount⟩ := takes_of_readSized h
      exact ⟨_, ⟨.table stride, hgrammar, operand, rfl, rfl⟩, hcount⟩

theorem takes_of_readInstruction {instruction : Instruction}
    (h : codec.readInstruction opcode offset cursor = (.ok instruction, after)) :
    ∃ count, instruction.Takes count ∧ after.remaining + count = cursor.remaining + 2 := by
  unfold readInstruction at h
  split at h
  · cases h
  · rename_i grammar hgrammar
    dsimp only at h
    rw [Prod.mk.injEq, map_eq_ok_iff] at h
    obtain ⟨⟨operands, hoperands, rfl⟩, hafter⟩ := h
    exact takes_of_readOperands hgrammar (Prod.ext hoperands hafter)

end Takes

end Codec

namespace Reader

def Ended (reader : Reader) : Prop :=
  reader.failed = true ∨ reader.remainder.length < 2

theorem next_cases (reader : Reader) :
    (reader.Ended ∧ reader.next = (none, reader)) ∨
    (∃ instruction count cursor, reader.next = (some (.ok instruction), { reader with cursor }) ∧
      reader.cursor.Reaches cursor ∧ instruction.Takes count ∧
      cursor.position = reader.position + count) ∨
    (∃ error cursor,
      reader.next = (some (.error error), { reader with cursor, failed := true }) ∧
      reader.cursor.Reaches cursor) := by
  rcases hnext : reader.next with ⟨_ | item, after⟩
  · obtain ⟨rfl, hended⟩ := next_eq_none_iff.mp hnext
    exact .inl ⟨hended, rfl⟩
  · right
    unfold next at hnext
    split at hnext
    · cases hnext
    · split at hnext
      · cases hnext
      · rename_i opcode behindOpcode hopcode
        have hbehind := Cursor.reaches_of_readUInt16? hopcode
        have hwhole := hbehind.trans
          (Codec.reaches_readInstruction reader.codec opcode reader.position behindOpcode)
        split at hnext
        · rename_i instruction cursor hread
          cases hnext
          rw [hread] at hwhole
          obtain ⟨count, htakes, hcount⟩ := Codec.takes_of_readInstruction hread
          refine .inl ⟨instruction, count, cursor, rfl, hwhole, htakes, ?_⟩
          have hopcodeLength := Cursor.remaining_of_readUInt16? hopcode
          have hconstant := hwhole.position_add_remaining
          dsimp only at hconstant
          unfold position
          omega
        · rename_i error cursor hread
          cases hnext
          rw [hread] at hwhole
          exact .inr ⟨error, cursor, rfl, hwhole⟩

theorem reaches_next (reader : Reader) : reader.cursor.Reaches reader.next.2.cursor := by
  obtain ⟨-, hnext⟩ | ⟨instruction, count, cursor, hnext, hreaches, -, -⟩ |
    ⟨error, cursor, hnext, hreaches⟩ := reader.next_cases
  all_goals rw [hnext]
  · exact reader.cursor.reaches_refl
  · exact hreaches
  · exact hreaches

def after (reader : Reader) : (calls : Nat) → Reader
  | 0 => reader
  | calls + 1 => (reader.after calls).next.2

def item (reader : Reader) (call : Nat) : Option (Except DecodeError Instruction) :=
  (reader.after call).next.1

theorem after_add (reader : Reader) (first more : Nat) :
    reader.after (first + more) = (reader.after first).after more := by
  induction more with
  | zero => rfl
  | succ more ih => rw [← Nat.add_assoc, after, ih, after]

theorem item_add (reader : Reader) (first more : Nat) :
    reader.item (first + more) = (reader.after first).item more := by
  rw [item, item, after_add]

theorem reaches_after (reader : Reader) (calls : Nat) :
    reader.cursor.Reaches (reader.after calls).cursor := by
  induction calls with
  | zero => exact reader.cursor.reaches_refl
  | succ calls ih => exact ih.trans (reaches_next _)

theorem reaches_run (reader : Reader) : reader.cursor.Reaches reader.run.last.cursor := by
  obtain ⟨middle, hsteps, hend⟩ := reader.yields_run
  obtain ⟨-, bytes, cursor, -, hadvances, rfl⟩ := hsteps.advances
  have hlast := reaches_next { reader with cursor }
  rw [hend] at hlast
  exact Cursor.Reaches.trans ⟨bytes, hadvances⟩ hlast

theorem Yields.cursor_eq {codec : Codec} {body : Bytes} {steps : List Step} {last : Reader}
    (h : (ofBody codec body).Yields steps last) :
    last.cursor = ⟨last.position, body.drop last.position⟩ := by
  obtain ⟨-, bytes, cursor, -, hadvances, rfl⟩ := h.advances
  have hreaches : (Cursor.ofBytes body).Reaches cursor := ⟨bytes, hadvances⟩
  exact congrArg (Cursor.mk cursor.position) hreaches.of_ofBytes.2

theorem Ended.next {reader : Reader} (h : reader.Ended) : reader.next = (none, reader) :=
  next_eq_none_iff.mpr ⟨rfl, h⟩

theorem Ended.after {reader : Reader} (h : reader.Ended) (calls : Nat) :
    reader.after calls = reader := by
  induction calls with
  | zero => rfl
  | succ calls ih => rw [Reader.after, ih, h.next]

theorem Ended.item {reader : Reader} (h : reader.Ended) (call : Nat) :
    reader.item call = none := by
  rw [Reader.item, h.after, h.next]

theorem ended_next {reader : Reader}
    (h : reader.next.1 = none ∨ ∃ error, reader.next.1 = some (.error error)) :
    reader.next.2.Ended := by
  obtain ⟨hended, hnext⟩ | ⟨instruction, count, cursor, hnext, -, -, -⟩ |
    ⟨error, cursor, hnext, -⟩ := reader.next_cases
  · rw [hnext]
    exact hended
  · simp [hnext] at h
  · rw [hnext]
    exact .inl rfl

/-- There is a number of calls that give something, and all later ones give
nothing.  Each of them takes the two bytes of an opcode at least. -/
theorem exists_item_eq_none_iff (reader : Reader) :
    ∃ count, 2 * count ≤ reader.cursor.remaining ∧
      ∀ call, reader.item call = none ↔ count ≤ call := by
  induction hremaining : reader.cursor.remaining using Nat.strongRecOn generalizing reader with
  | ind remaining ih =>
      subst hremaining
      rcases hnext : reader.next with ⟨_ | given, later⟩
      · have hended := (next_eq_none_iff.mp hnext).2
        exact ⟨0, Nat.zero_le _, fun call => by simp [Ended.item hended]⟩
      · have hshorter := remaining_of_next hnext
        have hlater : reader.after 1 = later := congrArg Prod.snd hnext
        obtain ⟨count, hcount, hitems⟩ := ih _ (by omega) later rfl
        refine ⟨count + 1, by omega, fun call => ?_⟩
        cases call with
        | zero => simp [item, after, hnext]
        | succ call =>
            rw [Nat.add_comm call 1, item_add, hlater, hitems]
            omega

/-- How a reader behaves over a body, however often it is called. -/
structure Orderly (reader : Reader) (body : Bytes) : Prop where
  forward : ∀ call, (reader.after call).position ≤ (reader.after (call + 1)).position
  inside : ∀ call, (reader.after call).position ≤ body.length
  remainder_eq : ∀ call, (reader.after call).remainder = body.drop (reader.after call).position
  takes : ∀ call instruction, reader.item call = some (.ok instruction) →
    ∃ count ≥ 2, instruction.Takes count ∧
      (reader.after (call + 1)).position = (reader.after call).position + count
  one_error : ∀ call other error otherError, reader.item call = some (.error error) →
    reader.item other = some (.error otherError) → call = other
  stays_of_none : ∀ call, reader.item call = none → reader.after (call + 1) = reader.after call
  ends : ∀ call later,
    (reader.item call = none ∨ ∃ error, reader.item call = some (.error error)) → call < later →
      reader.item later = none ∧ reader.after later = reader.after (call + 1)
  few : ∃ count ≤ body.length / 2, ∀ call, reader.item call = none ↔ count ≤ call

theorem item_of_lt {reader : Reader} {call later : Nat}
    (h : reader.item call = none ∨ ∃ error, reader.item call = some (.error error))
    (hlater : call < later) :
    reader.item later = none ∧ reader.after later = reader.after (call + 1) := by
  obtain ⟨more, rfl⟩ := Nat.exists_eq_add_of_lt hlater
  have hended : (reader.after (call + 1)).Ended := ended_next h
  rw [Nat.add_right_comm, item_add, after_add reader (call + 1)]
  exact ⟨hended.item more, hended.after more⟩

theorem takes_of_item {reader : Reader} {call : Nat} {instruction : Instruction}
    (h : reader.item call = some (.ok instruction)) :
    ∃ count ≥ 2, instruction.Takes count ∧
      (reader.after (call + 1)).position = (reader.after call).position + count := by
  obtain ⟨-, hnext⟩ | ⟨found, count, cursor, hnext, -, htakes, hposition⟩ |
    ⟨error, cursor, hnext, -⟩ := (reader.after call).next_cases
  · simp [item, hnext] at h
  · obtain rfl : found = instruction := by simpa [item, hnext] using h
    refine ⟨count, htakes.two_le, htakes, ?_⟩
    rw [after, hnext]
    exact hposition
  · simp [item, hnext] at h

theorem orderly_ofBody (codec : Codec) (body : Bytes) : (ofBody codec body).Orderly body where
  forward call := by
    obtain ⟨bytes, -, hposition⟩ := ((ofBody codec body).after call).reaches_next
    exact Nat.le.intro hposition.symm
  inside call := (reaches_after (ofBody codec body) call).of_ofBytes.1
  remainder_eq call := (reaches_after (ofBody codec body) call).of_ofBytes.2
  takes _ _ h := takes_of_item h
  one_error call other error otherError h hother := by
    rcases Nat.lt_trichotomy call other with hlt | heq | hlt
    · have hnone := (item_of_lt (.inr ⟨error, h⟩) hlt).1
      rw [hother] at hnone
      contradiction
    · exact heq
    · have hnone := (item_of_lt (.inr ⟨otherError, hother⟩) hlt).1
      rw [h] at hnone
      contradiction
  stays_of_none call h := by
    have hnext : ((ofBody codec body).after call).next =
        (none, (ofBody codec body).after (call + 1)) := Prod.ext h rfl
    exact (next_eq_none_iff.mp hnext).1
  ends _ _ h hlater := item_of_lt h hlater
  few := by
    obtain ⟨count, hcount, hitems⟩ := (ofBody codec body).exists_item_eq_none_iff
    have hremaining : (ofBody codec body).cursor.remaining = body.length := rfl
    exact ⟨count, by omega, hitems⟩

-- The unknown opcode is passed over before it is known to be wrong.
example :
    let reader := ofBody {} [0x3A, 0x08, 0x07, 0x00, 0xFF, 0xFF, 0x2B, 0x08]
    (List.range 4).map reader.item =
      [some (.ok ⟨0x83A, [.numeric 2 7]⟩), some (.error (.unknownOpcode 0xFFFF 4)), none, none] ∧
    (List.range 5).map (fun calls => (reader.after calls).position) = [0, 4, 6, 6, 6] := by
  decide +kernel

end Reader

end MajiroScript
