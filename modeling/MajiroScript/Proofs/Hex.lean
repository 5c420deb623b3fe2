import MajiroScript.Bytes.Hex

/-! Hexadecimal text can be read again: numbers and byte strings with the same
text are the same.  All of it is digits, apart from the blanks between bytes. -/
namespace MajiroScript.Hex

theorem digitChar_inj {digit other : Nat} (hdigit : digit < 16) (hother : other < 16)
    (h : digit.digitChar = other.digitChar) : digit = other := by
  have hall : ∀ digit < 16, ∀ other < 16, digit.digitChar = other.digitChar → digit = other := by
    decide
  exact hall digit hdigit other hother h

theorem isAlphanum_digitChar {digit : Nat} (h : digit < 16) : digit.digitChar.isAlphanum := by
  have hall : ∀ digit < 16, digit.digitChar.isAlphanum := by decide
  exact hall digit h

theorem isAlphanum_of_mem_toDigits {value : Nat} {char : Char}
    (h : char ∈ Nat.toDigits 16 value) : char.isAlphanum := by
  induction value using Nat.strongRecOn with
  | ind value ih =>
      rw [Nat.toDigits_eq_if (by decide)] at h
      split at h
      · rename_i hsmall
        rw [List.mem_singleton.mp h]
        exact isAlphanum_digitChar hsmall
      · rename_i hlarge
        rcases List.mem_append.mp h with hfront | hlast
        · exact ih (value / 16) (by omega) hfront
        · rw [List.mem_singleton.mp hlast]
          exact isAlphanum_digitChar (Nat.mod_lt value (by decide))

theorem toDigits_inj {value other : Nat} (h : Nat.toDigits 16 value = Nat.toDigits 16 other) :
    value = other := by
  -- The last digit is the remainder, and those before it are a smaller number.
  induction value using Nat.strongRecOn generalizing other with
  | ind value ih =>
      rw [Nat.toDigits_eq_if (by decide), Nat.toDigits_eq_if (n := other) (by decide)] at h
      split at h
      · rename_i hvalue
        split at h
        · rename_i hother
          exact digitChar_inj hvalue hother (List.cons.inj h).1
        · simp [List.singleton_eq_append_iff, Nat.toDigits_ne_nil] at h
      · rename_i hvalue
        split at h
        · simp [List.append_eq_singleton_iff, Nat.toDigits_ne_nil] at h
        · obtain ⟨hfront, hlast⟩ := List.append_inj' h rfl
          have hquotient := ih (value / 16) (by omega) hfront
          have hremainder := digitChar_inj (Nat.mod_lt value (by decide))
            (Nat.mod_lt other (by decide)) (List.cons.inj hlast).1
          omega

@[simp] theorem toList_number (value : Nat) :
    (number value).toList = '0' :: 'x' :: Nat.toDigits 16 value := by
  simp [number, digits]

theorem isAlphanum_of_mem_number {value : Nat} {char : Char} (h : char ∈ (number value).toList) :
    char.isAlphanum := by
  rw [toList_number] at h
  rcases List.mem_cons.mp h with rfl | h
  · decide
  · rcases List.mem_cons.mp h with rfl | h
    · decide
    · exact isAlphanum_of_mem_toDigits h

theorem number_inj {value other : Nat} (h : number value = number other) : value = other := by
  have hchars := congrArg String.toList h
  rw [toList_number, toList_number] at hchars
  exact toDigits_inj (List.cons.inj (List.cons.inj hchars).2).2

theorem toList_byte (value : UInt8) :
    (byte value).toList = [(value.toNat / 16).digitChar, (value.toNat % 16).digitChar] := by
  have hbound : value.toNat < 256 := value.toNat_lt
  rw [byte, padded, Text.padLeft, String.toList_append, digits, String.length_ofList,
    String.toList_ofList, String.toList_ofList, Nat.toDigits_eq_if (by decide)]
  split
  · rename_i hsmall
    rw [Nat.div_eq_of_lt hsmall, Nat.mod_eq_of_lt hsmall]
    rfl
  · rw [Nat.toDigits_of_lt_base (by omega)]
    rfl

theorem byte_inj {value other : UInt8} (h : byte value = byte other) : value = other := by
  have hvalue : value.toNat < 256 := value.toNat_lt
  have hother : other.toNat < 256 := other.toNat_lt
  have hchars := congrArg String.toList h
  rw [toList_byte, toList_byte] at hchars
  obtain ⟨hhigh, hlow⟩ := List.cons.inj hchars
  have hquotient := digitChar_inj (by omega) (by omega) hhigh
  have hremainder := digitChar_inj (by omega) (by omega) (List.cons.inj hlow).1
  exact UInt8.toNat_inj.mp (by omega)

theorem isAlphanum_of_mem_byte {value : UInt8} {char : Char} (h : char ∈ (byte value).toList) :
    char.isAlphanum := by
  have hbound : value.toNat < 256 := value.toNat_lt
  rw [toList_byte] at h
  rcases List.mem_cons.mp h with rfl | h
  · exact isAlphanum_digitChar (by omega)
  · rw [List.mem_singleton.mp h]
    exact isAlphanum_digitChar (by omega)

theorem splitOn_spaced {bytes : Bytes} (h : bytes ≠ []) :
    (spaced bytes).toList.splitOn ' ' = bytes.map fun value => (byte value).toList := by
  have hblank : ∀ digits ∈ (bytes.map byte).map String.toList, ' ' ∉ digits := by
    simp only [List.map_map, List.mem_map, Function.comp_apply]
    rintro _ ⟨value, -, rfl⟩ hmem
    exact absurd (isAlphanum_of_mem_byte hmem) (by decide)
  rw [spaced, String.toList_intercalate, show " ".toList = [' '] from rfl,
    List.splitOn_intercalate ' ' hblank (by simpa using h), List.map_map]
  rfl

theorem spaced_eq_empty_iff {bytes : Bytes} : spaced bytes = "" ↔ bytes = [] := by
  constructor
  · intro h
    cases bytes with
    | nil => rfl
    | cons value bytes =>
        have hpieces := splitOn_spaced (List.cons_ne_nil value bytes)
        rw [h, List.map_cons, toList_byte] at hpieces
        simp at hpieces
  · rintro rfl
    exact String.intercalate_nil

theorem spaced_inj {bytes others : Bytes} (h : spaced bytes = spaced others) :
    bytes = others := by
  by_cases hbytes : bytes = []
  · rw [hbytes, spaced_eq_empty_iff.mpr rfl] at h
    rw [hbytes, spaced_eq_empty_iff.mp h.symm]
  · by_cases hothers : others = []
    · rw [hothers, spaced_eq_empty_iff.mpr rfl] at h
      exact absurd (spaced_eq_empty_iff.mp h) hbytes
    · have hpieces := splitOn_spaced hbytes
      rw [h, splitOn_spaced hothers] at hpieces
      refine (List.map_inj_right ?_).mp hpieces.symm
      intro value other hdigits
      exact byte_inj (String.toList_inj.mp hdigits)

theorem isAlphanum_of_mem_spaced {bytes : Bytes} {char : Char}
    (h : char ∈ (spaced bytes).toList) : char = ' ' ∨ char.isAlphanum := by
  rw [spaced, String.toList_intercalate] at h
  induction bytes with
  | nil => simp at h
  | cons value bytes ih =>
      cases bytes with
      | nil =>
          rw [List.map_singleton, List.map_singleton, List.intercalate_singleton] at h
          exact .inr (isAlphanum_of_mem_byte h)
      | cons next bytes =>
          rw [List.map_cons, List.map_cons, List.map_cons, List.map_cons,
            List.intercalate_cons_cons, List.mem_append, List.mem_append] at h
          rcases h with (hbyte | hblank) | hothers
          · exact .inr (isAlphanum_of_mem_byte hbyte)
          · exact .inl (List.mem_singleton.mp hblank)
          · exact ih hothers

end MajiroScript.Hex
