import Mathlib.Algebra.GroupWithZero.Nat
import Mathlib.Data.List.Forall2
import MajiroScript.Bytes.Cursor

/-! Fields of a byte string.  A read from a cursor succeeds exactly when the
field that it gives stands, in its written form, right ahead of the cursor. -/
namespace MajiroScript

namespace Bytes

theorem toNatLE_lt (bytes : Bytes) : bytes.toNatLE < 256 ^ bytes.length := by
  induction bytes with
  | nil => simp [toNatLE]
  | cons byte rest ih =>
      have hbyte := byte.toNat_lt
      simp only [toNatLE, List.length_cons, Nat.pow_succ]
      omega

theorem toNatLE_ofNatLE (width value : Nat) :
    (ofNatLE width value).toNatLE = value % 256 ^ width := by
  induction width generalizing value with
  | zero => simp [ofNatLE, toNatLE, Nat.mod_one]
  | succ width ih =>
      simp only [ofNatLE, toNatLE, ih, Nat.pow_succ', Nat.mod_mul]
      simp

theorem toNat_toUInt16_toNatLE {bytes : Bytes} (h : bytes.length ≤ 2) :
    bytes.toNatLE.toUInt16.toNat = bytes.toNatLE := by
  rw [Nat.toUInt16_eq]
  exact UInt16.toNat_ofNat_of_lt'
    (Nat.lt_of_lt_of_le bytes.toNatLE_lt (Nat.pow_le_pow_right (by decide) h))

theorem toNat_toUInt32_toNatLE {bytes : Bytes} (h : bytes.length ≤ 4) :
    bytes.toNatLE.toUInt32.toNat = bytes.toNatLE := by
  rw [Nat.toUInt32_eq]
  exact UInt32.toNat_ofNat_of_lt'
    (Nat.lt_of_lt_of_le bytes.toNatLE_lt (Nat.pow_le_pow_right (by decide) h))

theorem ofUInt16_toNatLE {bytes : Bytes} (h : bytes.length = 2) :
    ofUInt16 bytes.toNatLE.toUInt16 = bytes := by
  rw [ofUInt16, toNat_toUInt16_toNatLE (Nat.le_of_eq h), ← h, ofNatLE_toNatLE]

theorem toUInt16_toNatLE_ofUInt16 (value : UInt16) :
    (ofUInt16 value).toNatLE.toUInt16 = value := by
  have hfits : value.toNat < 256 ^ 2 := value.toNat_lt
  rw [ofUInt16, toNatLE_ofNatLE, Nat.mod_eq_of_lt hfits, Nat.toUInt16_eq, UInt16.ofNat_toNat]

def uint16At (bytes : Bytes) (offset : Nat) : UInt16 :=
  (toNatLE ((bytes.drop offset).take 2)).toUInt16

theorem uint16At_of_drop {bytes rest : Bytes} {offset : Nat} {value : UInt16}
    (h : bytes.drop offset = ofUInt16 value ++ rest) : bytes.uint16At offset = value := by
  rw [uint16At, h, List.take_left' (length_ofUInt16 value), toUInt16_toNatLE_ofUInt16]

theorem drop_behind {bytes front rest : Bytes} {offset : Nat}
    (h : bytes.drop offset = front ++ rest) : bytes.drop (offset + front.length) = rest := by
  rw [← List.drop_drop, h, List.drop_left]

theorem drop_behind_uint16 {bytes rest : Bytes} {offset : Nat} {value : UInt16}
    (h : bytes.drop offset = ofUInt16 value ++ rest) : bytes.drop (offset + 2) = rest :=
  drop_behind h

theorem drop_eq_uint16At {bytes : Bytes} {offset : Nat} (h : offset + 2 ≤ bytes.length) :
    bytes.drop offset = ofUInt16 (bytes.uint16At offset) ++ bytes.drop (offset + 2) := by
  have hword : ((bytes.drop offset).take 2).length = 2 := by
    simp only [List.length_take, List.length_drop]
    omega
  rw [uint16At, ofUInt16_toNatLE hword, ← List.drop_drop, List.take_append_drop]

theorem uint16At_append {bytes : Bytes} {offset : Nat} (h : offset + 2 ≤ bytes.length)
    (more : Bytes) : (bytes ++ more).uint16At offset = bytes.uint16At offset := by
  have hword : (bytes ++ more).drop offset =
      ofUInt16 (bytes.uint16At offset) ++ (bytes.drop (offset + 2) ++ more) := by
    rw [List.drop_append_of_le_length (Nat.le_of_add_right_le h), drop_eq_uint16At h,
      List.append_assoc]
  exact uint16At_of_drop hword

/-- Whether a number is all in the lowest `width` of its bytes. -/
def Fits (width : UInt16) (value : UInt32) : Prop :=
  value.toNat < 256 ^ width.toNat

def ofNumbers (widths : List UInt16) (values : List UInt32) : Bytes :=
  (List.zipWith (fun width value => ofNatLE width.toNat value.toNat) widths values).flatten

theorem length_ofNumbers {widths : List UInt16} {values : List UInt32}
    (h : values.length = widths.length) :
    (ofNumbers widths values).length = (widths.map UInt16.toNat).sum := by
  induction widths generalizing values with
  | nil => rfl
  | cons width widths ih =>
      obtain ⟨value, values, rfl⟩ := List.exists_cons_of_length_eq_add_one h
      have hothers := ih (Nat.succ.inj h)
      simp only [ofNumbers] at hothers
      simp [ofNumbers, hothers]

end Bytes

/-- Taking `bytes` leads from one cursor to another. -/
def Cursor.Advances (cursor : Cursor) (bytes : Bytes) (after : Cursor) : Prop :=
  cursor.rest = bytes ++ after.rest ∧ after.position = cursor.position + bytes.length

namespace Cursor

@[simp] theorem advances_nil {cursor after : Cursor} :
    cursor.Advances [] after ↔ after = cursor := by
  cases cursor
  cases after
  simp only [Advances, List.nil_append, List.length_nil, Nat.add_zero, mk.injEq]
  constructor
  · rintro ⟨hrest, hposition⟩
    exact ⟨hposition, hrest.symm⟩
  · rintro ⟨hposition, hrest⟩
    exact ⟨hrest.symm, hposition⟩

theorem advances_append {cursor after : Cursor} {first second : Bytes} :
    cursor.Advances (first ++ second) after ↔
      ∃ middle, cursor.Advances first middle ∧ middle.Advances second after := by
  constructor
  · rintro ⟨hrest, hposition⟩
    refine ⟨⟨cursor.position + first.length, second ++ after.rest⟩, ⟨?_, rfl⟩, rfl, ?_⟩
    · rw [hrest, List.append_assoc]
    · rw [hposition, List.length_append, Nat.add_assoc]
  · rintro ⟨middle, ⟨hfirst, hmiddle⟩, hsecond, hafter⟩
    refine ⟨?_, ?_⟩
    · rw [hfirst, hsecond, List.append_assoc]
    · rw [hafter, hmiddle, List.length_append, Nat.add_assoc]

theorem take?_eq_some_iff_advances {cursor after : Cursor} {count : Nat} {bytes : Bytes} :
    cursor.take? count = some (bytes, after) ↔
      bytes.length = count ∧ cursor.Advances bytes after := by
  rw [take?_eq_some_iff]
  constructor
  · rintro ⟨hcount, rfl, rfl⟩
    have hlength : (cursor.rest.take count).length = count := List.length_take_of_le hcount
    refine ⟨hlength, ?_, ?_⟩
    · exact (List.take_append_drop count cursor.rest).symm
    · rw [hlength]
  · rintro ⟨rfl, hrest, hposition⟩
    cases after with
    | mk position rest =>
        dsimp only at hrest hposition
        simp only [remaining, hrest, hposition, List.length_append, List.take_left,
          List.drop_left, Nat.le_add_right, and_self]

theorem readUInt16?_eq_some_iff {cursor after : Cursor} {value : UInt16} :
    cursor.readUInt16? = some (value, after) ↔ cursor.Advances (Bytes.ofUInt16 value) after := by
  simp only [readUInt16?, Option.map_eq_some_iff, Prod.exists, Prod.mk.injEq,
    take?_eq_some_iff_advances]
  constructor
  · rintro ⟨bytes, after, ⟨hlength, hadvances⟩, rfl, rfl⟩
    rwa [Bytes.ofUInt16_toNatLE hlength]
  · intro hadvances
    exact ⟨_, after, ⟨Bytes.length_ofUInt16 value, hadvances⟩,
      Bytes.toUInt16_toNatLE_ofUInt16 value, rfl⟩

theorem readUInt16?_eq_none_iff {cursor : Cursor} :
    cursor.readUInt16? = none ↔ cursor.remaining < 2 := by
  rw [readUInt16?, Option.map_eq_none_iff, take?_eq_none_iff]

/-- A number that the cursor reads fits into its width, and no other bytes give
the same number. -/
theorem readUInt?_eq_some_iff {cursor after : Cursor} {width : Nat} {value : UInt32}
    (hwidth : width ≤ 4) :
    cursor.readUInt? width = some (value, after) ↔
      value.toNat < 256 ^ width ∧ cursor.Advances (Bytes.ofNatLE width value.toNat) after := by
  simp only [readUInt?, Option.map_eq_some_iff, Prod.exists, Prod.mk.injEq,
    take?_eq_some_iff_advances]
  constructor
  · rintro ⟨bytes, after, ⟨rfl, hadvances⟩, rfl, rfl⟩
    rw [Bytes.toNat_toUInt32_toNatLE hwidth, Bytes.ofNatLE_toNatLE]
    exact ⟨bytes.toNatLE_lt, hadvances⟩
  · rintro ⟨hfits, hadvances⟩
    refine ⟨_, after, ⟨Bytes.length_ofNatLE width value.toNat, hadvances⟩, ?_, rfl⟩
    rw [Bytes.toNatLE_ofNatLE, Nat.mod_eq_of_lt hfits, Nat.toUInt32_eq, UInt32.ofNat_toNat]

theorem readUInts?_eq_some_iff {cursor after : Cursor} {widths : List UInt16}
    {values : List UInt32} (hwidths : ∀ width ∈ widths, width.toNat ≤ 4) :
    cursor.readUInts? widths = some (values, after) ↔
      List.Forall₂ Bytes.Fits widths values ∧
        cursor.Advances (Bytes.ofNumbers widths values) after := by
  induction widths generalizing cursor after values with
  | nil =>
      simp only [readUInts?, Option.some.injEq, Prod.mk.injEq, List.forall₂_nil_left_iff]
      constructor
      · rintro ⟨rfl, rfl⟩
        exact ⟨rfl, advances_nil.mpr rfl⟩
      · rintro ⟨rfl, hadvances⟩
        exact ⟨rfl, (advances_nil.mp hadvances).symm⟩
  | cons width widths ih =>
      have hwidth := hwidths width List.mem_cons_self
      have htail : ∀ width ∈ widths, width.toNat ≤ 4 :=
        fun width hmem => hwidths width (List.mem_cons_of_mem _ hmem)
      simp only [readUInts?, Option.bind_eq_bind, Option.bind_eq_some_iff, Option.pure_def,
        Option.some.injEq, Prod.mk.injEq, Prod.exists, readUInt?_eq_some_iff hwidth, ih htail,
        List.forall₂_cons_left_iff]
      constructor
      · rintro ⟨value, next, ⟨hfits, hfirst⟩, values, last, ⟨hothers, hrest⟩, rfl, rfl⟩
        exact ⟨⟨value, values, hfits, hothers, rfl⟩,
          advances_append.mpr ⟨next, hfirst, hrest⟩⟩
      · rintro ⟨⟨value, values, hfits, hothers, rfl⟩, hadvances⟩
        obtain ⟨next, hfirst, hrest⟩ := advances_append.mp hadvances
        exact ⟨value, next, ⟨hfits, hfirst⟩, values, after, ⟨hothers, hrest⟩, rfl, rfl⟩

theorem readUInts?_eq_none_iff {cursor : Cursor} {widths : List UInt16} :
    cursor.readUInts? widths = none ↔ cursor.remaining < (widths.map UInt16.toNat).sum := by
  induction widths generalizing cursor with
  | nil => simp [readUInts?]
  | cons width widths ih =>
      simp only [readUInts?, List.map_cons, List.sum_cons]
      cases hfirst : cursor.readUInt? width.toNat with
      | none =>
          have hshort : cursor.remaining < width.toNat := by
            rw [readUInt?, Option.map_eq_none_iff] at hfirst
            exact take?_eq_none_iff.mp hfirst
          simp only [Option.bind_eq_bind, Option.bind_none, true_iff]
          omega
      | some found =>
          obtain ⟨value, next⟩ := found
          have hnext := remaining_of_readUInt? hfirst
          simp only [Option.bind_eq_bind, Option.bind_some, Option.bind_eq_none_iff,
            Option.pure_def, reduceCtorEq, imp_false]
          rw [← Option.eq_none_iff_forall_ne_some, ih]
          omega

end Cursor

end MajiroScript
