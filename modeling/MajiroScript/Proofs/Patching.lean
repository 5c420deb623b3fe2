import MajiroScript.Instruction.Script
import MajiroScript.Proofs.Records

/-! Inserting an instruction into a script.  Its record is put between the bytes
of the instructions on both sides, and what stands before a position is moved on
by one behind it. -/
namespace MajiroScript

theorem Codec.encodeAll_insertIdx {codec : Codec} {instructions : List Instruction} {index : Nat}
    {instruction : Instruction} {bytes record : Bytes} (hindex : index ≤ instructions.length)
    (hbytes : codec.encodeAll instructions = .ok bytes)
    (hrecord : codec.encode instruction = .ok record) :
    ∃ front behind, codec.encodeAll (instructions.take index) = .ok front ∧
      bytes = front ++ behind ∧
      codec.encodeAll (instructions.insertIdx index instruction) =
        .ok (front ++ (record ++ behind)) := by
  induction index generalizing instructions bytes with
  | zero =>
      refine ⟨[], bytes, encodeAll_nil codec, rfl, ?_⟩
      exact encodeAll_cons_eq_ok_iff.mpr ⟨record, bytes, hrecord, hbytes, rfl⟩
  | succ index ih =>
      cases instructions with
      | nil => simp at hindex
      | cons first instructions =>
          obtain ⟨firstRecord, rest, hfirst, hrest, rfl⟩ := encodeAll_cons_eq_ok_iff.mp hbytes
          obtain ⟨front, behind, hfront, rfl, hspliced⟩ := ih (Nat.le_of_succ_le_succ hindex) hrest
          refine ⟨firstRecord ++ front, behind, ?_, (List.append_assoc ..).symm, ?_⟩
          · exact encodeAll_cons_eq_ok_iff.mpr ⟨firstRecord, front, hfirst, hfront, rfl⟩
          · rw [List.insertIdx_succ_cons, List.append_assoc]
            exact encodeAll_cons_eq_ok_iff.mpr ⟨firstRecord, _, hfirst, hspliced, rfl⟩

namespace Script

theorem insert?_of_le {script : Script} {index : Nat} (h : index ≤ script.size)
    (instruction : Instruction) : script.insert? index instruction =
      some ⟨script.instructions.insertIdx index instruction⟩ :=
  if_pos h

@[simp] theorem precededBy_zero (script : Script) (opcode : Opcode) :
    script.precededBy 0 opcode = false := rfl

@[simp] theorem precededBy_succ (script : Script) (place : Nat) (opcode : Opcode) :
    script.precededBy (place + 1) opcode =
      (script.instructions[place]?.map Instruction.opcode == some opcode) := by
  simp [precededBy, get?]

theorem precededBy_insertIdx {script : Script} {index : Nat} (h : index ≤ script.size)
    (instruction : Instruction) (place : Nat) (opcode : Opcode) :
    precededBy ⟨script.instructions.insertIdx index instruction⟩ place opcode =
      if place ≤ index then script.precededBy place opcode
      else if place = index + 1 then instruction.opcode == opcode
      else script.precededBy (place - 1) opcode := by
  cases place with
  | zero => simp
  | succ place =>
      rw [precededBy_succ, List.getElem?_insertIdx]
      rcases Nat.lt_trichotomy place index with hbefore | rfl | hbehind
      · rw [if_pos hbefore, if_pos (by omega), precededBy_succ]
      · have hinside : place ≤ script.instructions.length := h
        rw [if_neg (Nat.lt_irrefl place), if_pos rfl, if_pos hinside, if_neg (by omega),
          if_pos rfl, Option.map_some, Option.some_beq_some]
      · obtain ⟨gap, rfl⟩ := Nat.exists_eq_add_of_lt hbehind
        rw [if_neg (by omega), if_neg (by omega), if_neg (by omega), if_neg (by omega)]
        exact (precededBy_succ script (index + gap) opcode).symm

/-- An instruction can be put at every position up to the end.  Its record goes
in behind the bytes of the instructions before it. -/
theorem insert?_splices {script : Script} {index : Nat} (hindex : index ≤ script.size)
    (instruction : Instruction) :
    ∃ patched, script.insert? index instruction = some patched ∧
      (∀ codec bytes record, Codec.encodeAll codec script.instructions = .ok bytes →
        codec.encode instruction = .ok record →
        ∃ front, codec.encodeAll (script.instructions.take index) = .ok front ∧
          front.length ≤ bytes.length ∧
          codec.encodeAll patched.instructions =
            .ok (bytes.take front.length ++ record ++ bytes.drop front.length)) ∧
      ∀ place opcode, patched.precededBy place opcode =
        if place ≤ index then script.precededBy place opcode
        else if place = index + 1 then instruction.opcode == opcode
        else script.precededBy (place - 1) opcode := by
  refine ⟨_, insert?_of_le hindex instruction, ?_, precededBy_insertIdx hindex instruction⟩
  intro codec bytes record hbytes hrecord
  obtain ⟨front, behind, hfront, rfl, hspliced⟩ :=
    Codec.encodeAll_insertIdx hindex hbytes hrecord
  refine ⟨front, hfront, ?_, ?_⟩
  · rw [List.length_append]
    exact Nat.le_add_right _ _
  · rw [List.take_left, List.drop_left, List.append_assoc]
    exact hspliced

theorem insert?_splices_line :
    1 ≤ size ⟨[⟨0x801, [⟨1, true, .text "a"⟩]⟩, ⟨0x82B, []⟩]⟩ ∧
    Codec.encodeAll {} [⟨0x801, [⟨1, true, .text "a"⟩]⟩, ⟨0x82B, []⟩] =
      .ok [1, 8, 1, 0, 0x61, 0x2B, 8] ∧
    Codec.encode {} ⟨0x83A, [.numeric 2 7]⟩ = .ok [0x3A, 8, 7, 0] ∧
    ∃ patched,
      insert? ⟨[⟨0x801, [⟨1, true, .text "a"⟩]⟩, ⟨0x82B, []⟩]⟩ 1 ⟨0x83A, [.numeric 2 7]⟩ =
        some patched ∧
      Codec.encodeAll {} patched.instructions =
        .ok [1, 8, 1, 0, 0x61, 0x3A, 8, 7, 0, 0x2B, 8] ∧
      patched.precededBy 1 0x801 ∧ patched.precededBy 2 0x83A ∧ patched.precededBy 3 0x82B ∧
      ¬ patched.precededBy 4 0x82B := by
  have hindex : 1 ≤ size ⟨[⟨0x801, [⟨1, true, .text "a"⟩]⟩, ⟨0x82B, []⟩]⟩ := by decide
  have hbytes : Codec.encodeAll {} [⟨0x801, [⟨1, true, .text "a"⟩]⟩, ⟨0x82B, []⟩] =
      .ok [1, 8, 1, 0, 0x61, 0x2B, 8] := by
    decide +kernel
  have hrecord : Codec.encode {} ⟨0x83A, [.numeric 2 7]⟩ = .ok [0x3A, 8, 7, 0] := by
    decide +kernel
  obtain ⟨patched, hpatched, hspliced, hpreceded⟩ :=
    insert?_splices hindex ⟨0x83A, [.numeric 2 7]⟩
  obtain ⟨front, hfront, -, hall⟩ := hspliced {} _ _ hbytes hrecord
  have hlength : front = [1, 8, 1, 0, 0x61] := by
    have hfirst : Codec.encodeAll {} [⟨0x801, [⟨1, true, .text "a"⟩]⟩] =
        .ok [1, 8, 1, 0, 0x61] := by
      decide +kernel
    exact Except.ok.inj (hfront.symm.trans hfirst)
  subst hlength
  refine ⟨hindex, hbytes, hrecord, patched, hpatched, hall, ?_⟩
  simp only [hpreceded]
  decide

end Script

end MajiroScript
