import Mathlib.Logic.Function.Basic
import MajiroScript.Obfuscation

/-! Hiding an image combines every byte with a mask of its own, which depends on
the place of the byte alone. -/
namespace MajiroScript.Obfuscation

def maskAt (headerLength : Nat) (key : Keystream) (offset : Nat) : UInt8 :=
  (if offset = markerOffset then markerMask else 0) ^^^
    (if headerLength ≤ offset then key.keyAt (offset - headerLength) else 0)

theorem getElem?_modify_marker (image : Bytes) (offset : Nat) :
    (image.modify markerOffset (· ^^^ markerMask))[offset]? =
      image[offset]?.map (· ^^^ if offset = markerOffset then markerMask else 0) := by
  by_cases hmarker : offset = markerOffset
  · rw [if_pos hmarker, hmarker, List.getElem?_modify_eq]
    rfl
  · rw [if_neg hmarker, List.getElem?_modify_ne _ _ (Ne.symm hmarker)]
    simp only [UInt8.xor_zero, Option.map_id']

theorem getElem?_toggle (headerLength : Nat) (key : Keystream) (image : Bytes) (offset : Nat) :
    (toggle headerLength key image)[offset]? =
      image[offset]?.map (· ^^^ maskAt headerLength key offset) := by
  by_cases hinside : offset < image.length
  · unfold toggle maskAt
    dsimp only
    by_cases hbody : headerLength ≤ offset
    · have hheader : ((image.modify markerOffset (· ^^^ markerMask)).take headerLength).length =
          headerLength := by
        rw [List.length_take, List.length_modify]
        omega
      rw [if_pos hbody, List.getElem?_append_right (by omega), hheader,
        Keystream.getElem?_apply, List.getElem?_drop, Nat.add_sub_cancel' hbody,
        getElem?_modify_marker, Option.map_map]
      congr 1
      funext byte
      exact UInt8.xor_assoc _ _ _
    · have hheader : offset <
          ((image.modify markerOffset (· ^^^ markerMask)).take headerLength).length := by
        rw [List.length_take, List.length_modify]
        omega
      rw [if_neg hbody, UInt8.xor_zero, List.getElem?_append_left hheader,
        List.getElem?_take_of_lt (Nat.not_le.mp hbody), getElem?_modify_marker]
  · have houtside : image.length ≤ offset := Nat.not_lt.mp hinside
    rw [List.getElem?_eq_none houtside, List.getElem?_eq_none (by rwa [length_toggle])]
    rfl

@[simp] theorem toggle_toggle (headerLength : Nat) (key : Keystream) (image : Bytes) :
    toggle headerLength key (toggle headerLength key image) = image := by
  apply List.ext_getElem?
  intro offset
  rw [getElem?_toggle, getElem?_toggle, Option.map_map]
  cases image[offset]? with
  | none => rfl
  | some byte =>
      simp only [Option.map_some, Function.comp_apply]
      rw [UInt8.xor_assoc, UInt8.xor_self, UInt8.xor_zero]

theorem maskAt_of_header {headerLength offset : Nat} (hmarker : offset ≠ markerOffset)
    (hheader : offset < headerLength) (key : Keystream) : maskAt headerLength key offset = 0 := by
  rw [maskAt, if_neg hmarker, if_neg (Nat.not_le.mpr hheader)]
  rfl

/-- Hiding is its own inverse, for images of any length and bodies that start
anywhere.  It keeps the length and changes the marker and the body alone.  Both
masks apply to a marker inside the body. -/
theorem involutive_toggle (headerLength : Nat) (key : Keystream) :
    Function.Involutive (toggle headerLength key) ∧
      ∀ image : Bytes, (toggle headerLength key image).length = image.length ∧
        (∀ offset, (toggle headerLength key image)[offset]? ≠ image[offset]? →
          offset = markerOffset ∨ headerLength ≤ offset) ∧
        ∀ offset, (toggle headerLength key image)[offset]? =
          image[offset]?.map (· ^^^ maskAt headerLength key offset) := by
  refine ⟨toggle_toggle headerLength key, fun image => ⟨length_toggle headerLength key image,
    ?_, getElem?_toggle headerLength key image⟩⟩
  intro offset hchanged
  by_contra hkept
  rw [not_or, Nat.not_le] at hkept
  apply hchanged
  rw [getElem?_toggle, maskAt_of_header hkept.1 hkept.2]
  simp only [UInt8.xor_zero, Option.map_id']

theorem involutive_toggle_marker :
    let key : Keystream := ⟨#[1, 0x16]⟩
    let image : Bytes := List.replicate 10 0
    (toggle 8 key image)[9]? = some (0x17 ^^^ 0x16) ∧
      toggle 8 key (toggle 8 key image) = image ∧ (9 = markerOffset ∨ 8 ≤ 9) := by
  intro key image
  have hmarker : (toggle 8 key image)[9]? = some (0x17 ^^^ 0x16) := by decide +kernel
  have hchanged : (toggle 8 key image)[9]? ≠ image[9]? := by decide +kernel
  exact ⟨hmarker, (involutive_toggle 8 key).1 image,
    ((involutive_toggle 8 key).2 image).2.1 9 hchanged⟩

theorem take_toggle (headerLength : Nat) (key : Keystream) (image : Bytes) :
    (toggle headerLength key image).take headerLength =
      (image.take headerLength).modify markerOffset (· ^^^ markerMask) := by
  apply List.ext_getElem?
  intro offset
  rw [getElem?_modify_marker, List.getElem?_take, List.getElem?_take]
  by_cases hheader : offset < headerLength
  · rw [if_pos hheader, if_pos hheader, getElem?_toggle, maskAt, if_neg (Nat.not_le.mpr hheader),
      UInt8.xor_zero]
  · rw [if_neg hheader, if_neg hheader]
    rfl

theorem take_toggle_congr {headerLength : Nat} {image other : Bytes} (key otherKey : Keystream)
    (h : image.take headerLength = other.take headerLength) :
    (toggle headerLength key image).take headerLength =
      (toggle headerLength otherKey other).take headerLength := by
  rw [take_toggle, take_toggle, h]

theorem xor_common (byte common first second : UInt8) :
    byte ^^^ (common ^^^ first) ^^^ (common ^^^ second) = byte ^^^ first ^^^ second := by
  calc byte ^^^ (common ^^^ first) ^^^ (common ^^^ second)
      = byte ^^^ first ^^^ (common ^^^ common ^^^ second) := by ac_rfl
    _ = byte ^^^ first ^^^ second := by rw [UInt8.xor_self, UInt8.zero_xor]

theorem getElem?_toggle_toggle (headerLength : Nat) (key other : Keystream) (image : Bytes)
    (offset : Nat) :
    (toggle headerLength other (toggle headerLength key image))[offset]? =
      image[offset]?.map fun byte =>
        if headerLength ≤ offset then
          byte ^^^ key.keyAt (offset - headerLength) ^^^ other.keyAt (offset - headerLength)
        else byte := by
  rw [getElem?_toggle, getElem?_toggle, Option.map_map]
  congr 1
  funext byte
  simp only [Function.comp_apply, maskAt, xor_common]
  by_cases hbody : headerLength ≤ offset
  · simp only [if_pos hbody]
  · simp only [if_neg hbody, UInt8.xor_zero]

theorem take_toggle_toggle (headerLength : Nat) (key other : Keystream) (image : Bytes) :
    (toggle headerLength other (toggle headerLength key image)).take headerLength =
      image.take headerLength := by
  have hsame : (toggle headerLength key image).take headerLength =
      (toggle headerLength other image).take headerLength :=
    take_toggle_congr key other rfl
  rw [take_toggle_congr other other hsame, toggle_toggle]

theorem take_toggle_of_le {headerLength count : Nat} (h : count ≤ headerLength)
    (key : Keystream) (image : Bytes) :
    (toggle headerLength key image).take count =
      (image.take count).modify markerOffset (· ^^^ markerMask) := by
  have hfront : (toggle headerLength key image).take count =
      ((toggle headerLength key image).take headerLength).take count := by
    rw [List.take_take, Nat.min_eq_left h]
  rw [hfront, take_toggle, List.take_modify, List.take_take, Nat.min_eq_left h]

end MajiroScript.Obfuscation
