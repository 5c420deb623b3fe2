import MajiroScript.Proofs.Acceptance
import MajiroScript.Proofs.Cursor

/-! Numbers of one to four bytes, one behind the other.  Values that fit into their
widths and byte strings as long as all widths together are the same thing in two
forms.  Words of 32 bits are enough to go from one to the other: no shift moves a
bit out of the word, and none is as wide as the word. -/
namespace MajiroScript

open Text (Encoding)

theorem Bytes.take_ofNatLE {count width : Nat} (h : count ≤ width) (value : Nat) :
    (ofNatLE width value).take count = ofNatLE count value := by
  induction count generalizing width value with
  | zero => rfl
  | succ count ih =>
      obtain ⟨width, rfl⟩ := Nat.exists_eq_add_of_le' (Nat.zero_lt_of_lt h)
      rw [ofNatLE, List.take_succ_cons, ih (Nat.le_of_succ_le_succ h), ofNatLE]

namespace Word

/-- A shift to the left.  It overflows if it is as wide as the word, or if it
moves a bit that is set out of the word. -/
def shiftLeft? (value : UInt32) (amount : Nat) : Option UInt32 :=
  if amount < 32 ∧ value.toNat <<< amount < 2 ^ 32 then some (value <<< amount.toUInt32) else none

def shiftRight? (value : UInt32) (amount : Nat) : Option UInt32 :=
  if amount < 32 then some (value >>> amount.toUInt32) else none

def ofBytes? (bytes : Bytes) : Option UInt32 :=
  bytes.reverse.foldlM (fun value byte => (shiftLeft? value 8).map (· ||| byte.toUInt32)) 0

/-- The lowest bytes of a word, if nothing is set above them and no shift
overflows.  A word in its full width needs no shift. -/
def bytes? (width : UInt16) (value : UInt32) : Option (Except OperandError Bytes) :=
  let lowest := (Bytes.ofUInt32 value).take width.toNat
  if width.toNat < 1 ∨ 4 < width.toNat then some (.error (.unsupportedWidth width))
  else if width.toNat < 4 then
    (shiftRight? value (8 * width.toNat)).map fun above =>
      if above ≠ 0 then .error (.overflow value width) else .ok lowest
  else some (.ok lowest)

theorem shiftLeft?_byte {value : UInt32} (h : value.toNat < 2 ^ 24) :
    shiftLeft? value 8 = some (value <<< 8) := by
  refine if_pos ⟨by decide, ?_⟩
  rw [Nat.shiftLeft_eq]
  omega

theorem ofBytes?_eq {bytes : Bytes} (h : bytes.length ≤ 4) :
    ofBytes? bytes = some bytes.shifted := by
  rw [ofBytes?, Bytes.shifted, List.foldlM_reverse, List.foldl_reverse]
  induction bytes with
  | nil => rfl
  | cons byte bytes ih =>
      rw [List.length_cons] at h
      -- Before each shift the word has room for one byte more.
      have hroom : (Bytes.shifted bytes).toNat < 2 ^ 24 := by
        rw [Bytes.shifted_eq, Bytes.toNat_toUInt32_toNatLE (Nat.le_of_succ_le h)]
        exact Nat.lt_of_lt_of_le (Bytes.toNatLE_lt bytes)
          (Nat.pow_le_pow_right (by decide) (Nat.le_of_succ_le_succ h))
      rw [Bytes.shifted, List.foldl_reverse] at hroom
      rw [List.foldrM_cons, ih (Nat.le_of_succ_le h), List.foldr_cons]
      change (shiftLeft? _ 8).map _ = _
      rw [shiftLeft?_byte hroom, Option.map_some]

theorem shiftRight?_bytes {width : Nat} (h : width < 4) (value : UInt32) :
    shiftRight? value (8 * width) = some (value >>> (8 * width).toUInt32) :=
  if_pos (by omega)

theorem shiftRight_eq_zero_iff {width : Nat} (h : width < 4) (value : UInt32) :
    value >>> (8 * width).toUInt32 = 0 ↔ value.toNat < 256 ^ width := by
  have hamount : (8 * width).toUInt32.toNat = 8 * width := by
    rw [Nat.toUInt32_eq]
    exact UInt32.toNat_ofNat_of_lt' (Nat.lt_trans (show 8 * width < 32 by omega) (by decide))
  rw [← UInt32.toNat_inj, UInt32.toNat_shiftRight, hamount, Nat.mod_eq_of_lt (by omega)]
  exact Operand.shiftRight_eq_zero_iff value.toNat width

theorem bytes?_eq (width : UInt16) (value : UInt32) (encoding : Encoding) (opcode : Opcode) :
    bytes? width value = some ((Operand.numeric width value).encode encoding opcode) := by
  unfold bytes?
  dsimp only
  split
  · rename_i hunsupported
    exact congrArg some (Operand.encode_eq_error_iff.mpr (.width hunsupported)).symm
  · rename_i hwidth
    have hsupported : 1 ≤ width.toNat ∧ width.toNat ≤ 4 := by omega
    have hlowest : (Bytes.ofUInt32 value).take width.toNat =
        Bytes.ofNatLE width.toNat value.toNat :=
      Bytes.take_ofNatLE hsupported.2 value.toNat
    have hwritten (hfits : value.toNat < 256 ^ width.toNat) :
        (Operand.numeric width value).encode encoding opcode =
          .ok (Bytes.ofNatLE width.toNat value.toNat) :=
      Operand.encode_numeric_eq_ok_iff.mpr ⟨hsupported, hfits, rfl⟩
    rw [hlowest]
    split
    · rename_i hshort
      rw [shiftRight?_bytes hshort, Option.map_some]
      split
      · rename_i hlost
        rw [ne_eq, shiftRight_eq_zero_iff hshort] at hlost
        exact congrArg some (Operand.encode_eq_error_iff.mpr
          (.overflow hsupported (Nat.not_lt.mp hlost))).symm
      · rename_i hkept
        rw [not_not, shiftRight_eq_zero_iff hshort] at hkept
        rw [hwritten hkept]
    · rename_i hfull
      have hfits : value.toNat < 256 ^ width.toNat :=
        Nat.lt_of_lt_of_le value.toNat_lt
          (Nat.pow_le_pow_right (by decide) (Nat.not_lt.mp hfull) : 256 ^ 4 ≤ _)
      rw [hwritten hfits]

-- A fifth byte has no room, and a word is not shifted by its own width.
example : ofBytes? [1, 2, 3, 4] = some 0x04030201 ∧ ofBytes? [0, 0, 0, 0, 1] = none ∧
    shiftRight? 1 32 = none ∧ bytes? 3 0x01000000 = some (.error (.overflow 0x01000000 3)) := by
  decide +kernel

end Word

namespace Cursor

def readWord? (cursor : Cursor) (width : Nat) : Option (UInt32 × Cursor) := do
  let (bytes, after) ← cursor.take? width
  let value ← Word.ofBytes? bytes
  pure (value, after)

def readWords? (cursor : Cursor) : List UInt16 → Option (List UInt32 × Cursor)
  | [] => some ([], cursor)
  | width :: widths => do
      let (value, next) ← cursor.readWord? width.toNat
      let (values, after) ← next.readWords? widths
      pure (value :: values, after)

theorem readWord?_eq {width : Nat} (h : width ≤ 4) (cursor : Cursor) :
    cursor.readWord? width = cursor.readUInt? width := by
  unfold readWord? readUInt?
  cases htake : cursor.take? width with
  | none => rfl
  | some taken =>
      obtain ⟨bytes, after⟩ := taken
      have hlength := (take?_eq_some_iff_advances.mp htake).1
      simp [Word.ofBytes?_eq (hlength ▸ h), Bytes.shifted_eq]

theorem readWords?_eq {widths : List UInt16} (h : ∀ width ∈ widths, width.toNat ≤ 4)
    (cursor : Cursor) : cursor.readWords? widths = cursor.readUInts? widths := by
  induction widths generalizing cursor with
  | nil => rfl
  | cons width widths ih =>
      obtain ⟨hwidth, hothers⟩ := List.forall_mem_cons.mp h
      simp only [readWords?, readUInts?, readWord?_eq hwidth, ih hothers]

theorem advances_ofBytes (bytes : Bytes) : (ofBytes bytes).Advances bytes ⟨bytes.length, []⟩ :=
  ⟨(List.append_nil bytes).symm, (Nat.zero_add _).symm⟩

end Cursor

def Instruction.ofNumbers (opcode : Opcode) (widths : List UInt16) (values : List UInt32) :
    Instruction :=
  ⟨opcode, List.zipWith Operand.numeric widths values⟩

namespace Codec

section

variable {codec : Codec} {opcode : Opcode} {widths : List UInt16}
  (hwidths : ∀ width ∈ widths, 1 ≤ width.toNat ∧ width.toNat ≤ 4)

include hwidths

theorem encode_ofNumbers_eq_ok_iff {values : List UInt32} {record : Bytes}
    (hlength : values.length = widths.length) :
    codec.encode (.ofNumbers opcode widths values) = .ok record ↔
      List.Forall₂ Bytes.Fits widths values ∧
        record = Bytes.ofUInt16 opcode ++ Bytes.ofNumbers widths values := by
  simp only [encode_eq_ok_iff, Instruction.ofNumbers,
    Operand.map_encode_numeric_eq_ok_iff hwidths hlength]
  constructor
  · rintro ⟨fields, ⟨hall, rfl⟩, rfl⟩
    exact ⟨hall, rfl⟩
  · rintro ⟨hall, rfl⟩
    exact ⟨_, ⟨hall, rfl⟩, rfl⟩

theorem exists_readUInts? {bytes : Bytes} (h : bytes.length = (widths.map UInt16.toNat).sum) :
    ∃ values, (Cursor.ofBytes bytes).readUInts? widths = some (values, ⟨bytes.length, []⟩) ∧
      List.Forall₂ Bytes.Fits widths values ∧ bytes = Bytes.ofNumbers widths values := by
  have hfound : (Cursor.ofBytes bytes).readUInts? widths ≠ none := by
    rw [Ne, Cursor.readUInts?_eq_none_iff, ← h]
    exact Nat.lt_irrefl _
  obtain ⟨⟨values, after⟩, hread⟩ := Option.ne_none_iff_exists'.mp hfound
  have hshort : ∀ width ∈ widths, width.toNat ≤ 4 := fun width hmem => (hwidths width hmem).2
  obtain ⟨hall, hrest, -⟩ := (Cursor.readUInts?_eq_some_iff hshort).mp hread
  -- The numbers take up all of the bytes, so nothing is left behind them.
  have hlength := congrArg List.length hrest
  rw [List.length_append, Bytes.length_ofNumbers hall.length_eq.symm, ← h] at hlength
  have hend : after.rest = [] := List.eq_nil_of_length_eq_zero (Nat.left_eq_add.mp hlength)
  rw [hend, List.append_nil] at hrest
  have hbytes : bytes = Bytes.ofNumbers widths values := hrest
  refine ⟨values, ?_, hall, hbytes⟩
  rw [Cursor.readUInts?_eq_some_iff hshort, ← hbytes]
  exact ⟨hall, Cursor.advances_ofBytes bytes⟩

end

/-- Numbers are written exactly when each of them fits into its width.  Their bytes
are as long as all widths together and give the same numbers back, and all byte
strings of that length are the bytes of the numbers that they give.  No shift
overflows on the way there or back. -/
theorem encode_ofNumbers_exact (codec : Codec) (opcode : Opcode) (widths : List UInt16)
    (hwidths : ∀ width ∈ widths, 1 ≤ width.toNat ∧ width.toNat ≤ 4) :
    (∀ values : List UInt32, values.length = widths.length →
      ((∃ record, codec.encode (.ofNumbers opcode widths values) = .ok record) ↔
        List.Forall₂ (fun width value => value.toNat < 256 ^ width.toNat) widths values) ∧
      ∀ record, codec.encode (.ofNumbers opcode widths values) = .ok record →
        ∃ bytes, record = Bytes.ofUInt16 opcode ++ bytes ∧
          bytes.length = (widths.map UInt16.toNat).sum ∧
          (Cursor.ofBytes bytes).readUInts? widths = some (values, ⟨bytes.length, []⟩)) ∧
    (∀ bytes : Bytes, bytes.length = (widths.map UInt16.toNat).sum →
      ∃ values, (Cursor.ofBytes bytes).readUInts? widths = some (values, ⟨bytes.length, []⟩) ∧
        values.length = widths.length ∧
        codec.encode (.ofNumbers opcode widths values) = .ok (Bytes.ofUInt16 opcode ++ bytes)) ∧
    (∀ cursor : Cursor, cursor.readWords? widths = cursor.readUInts? widths) ∧
    ∀ width ∈ widths, ∀ value, Word.bytes? width value =
      some ((Operand.numeric width value).encode codec.encoding opcode) := by
  have hshort : ∀ width ∈ widths, width.toNat ≤ 4 := fun width hmem => (hwidths width hmem).2
  refine ⟨?_, ?_, Cursor.readWords?_eq hshort,
    fun width _ value => Word.bytes?_eq width value codec.encoding opcode⟩
  · intro values hlength
    refine ⟨⟨?_, ?_⟩, ?_⟩
    · rintro ⟨record, hrecord⟩
      exact ((encode_ofNumbers_eq_ok_iff hwidths hlength).mp hrecord).1
    · intro hall
      exact ⟨_, (encode_ofNumbers_eq_ok_iff hwidths hlength).mpr ⟨hall, rfl⟩⟩
    · intro record hrecord
      obtain ⟨hall, rfl⟩ := (encode_ofNumbers_eq_ok_iff hwidths hlength).mp hrecord
      refine ⟨_, rfl, Bytes.length_ofNumbers hlength, ?_⟩
      exact (Cursor.readUInts?_eq_some_iff hshort).mpr ⟨hall, Cursor.advances_ofBytes _⟩
  · intro bytes hlength
    obtain ⟨values, hread, hall, hbytes⟩ := exists_readUInts? hwidths hlength
    have hcount := hall.length_eq.symm
    refine ⟨values, hread, hcount, (encode_ofNumbers_eq_ok_iff hwidths hcount).mpr ⟨hall, ?_⟩⟩
    rw [hbytes]

theorem encode_ofNumbers_exact_largest :
    encode {} (.ofNumbers 0x999 [1, 3, 4] [0xFF, 0xFFFFFF, 0xFFFFFFFF]) =
      .ok ([0x99, 0x09] ++ .replicate 8 0xFF) ∧
    (Cursor.ofBytes (.replicate 8 0xFF)).readUInts? [1, 3, 4] =
      some ([0xFF, 0xFFFFFF, 0xFFFFFFFF], ⟨8, []⟩) ∧
    (Cursor.ofBytes (.replicate 8 0xFF)).readWords? [1, 3, 4] =
      some ([0xFF, 0xFFFFFF, 0xFFFFFFFF], ⟨8, []⟩) ∧
    (¬ ∃ record, encode {} (.ofNumbers 0x999 [1, 3, 4] [0xFF, 0x1000000, 0]) = .ok record) ∧
    ∃ values, (Cursor.ofBytes [1, 2, 3, 4, 5, 6, 7, 8]).readUInts? [1, 3, 4] =
        some (values, ⟨8, []⟩) ∧
      encode {} (.ofNumbers 0x999 [1, 3, 4] values) = .ok [0x99, 0x09, 1, 2, 3, 4, 5, 6, 7, 8] := by
  obtain ⟨hwritten, hread, hwords, -⟩ := encode_ofNumbers_exact {} 0x999 [1, 3, 4] (by simp)
  have hlargest : encode {} (.ofNumbers 0x999 [1, 3, 4] [0xFF, 0xFFFFFF, 0xFFFFFFFF]) =
      .ok ([0x99, 0x09] ++ .replicate 8 0xFF) := by
    decide +kernel
  obtain ⟨bytes, hbytes, -, hback⟩ := (hwritten _ (by decide)).2 _ hlargest
  obtain rfl : .replicate 8 0xFF = bytes := List.append_cancel_left hbytes
  obtain ⟨values, hvalues, -, hsame⟩ := hread [1, 2, 3, 4, 5, 6, 7, 8] (by decide)
  refine ⟨hlargest, hback, (hwords _).trans hback, ?_, values, hvalues, hsame⟩
  rw [(hwritten [0xFF, 0x1000000, 0] (by decide)).1]
  simp

end Codec

end MajiroScript
