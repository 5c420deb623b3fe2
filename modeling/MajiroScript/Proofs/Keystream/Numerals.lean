import Mathlib.Data.List.Forall2
import Mathlib.Data.Nat.Digits.Lemmas
import Mathlib.Tactic.Ring
import MajiroScript.Keystream.Resource

/-! Hexadecimal numbers and the bytes that are read from them.  A number is read
if it fits in 64 bits, also behind a plus sign, and gives its low byte.
Everything else gives zero. -/
namespace MajiroScript.Keystream

def WritesDigit (char : Char) (digit : Nat) : Prop :=
  digit < 16 ∧ (char = digit.digitChar ∨ char = digit.digitChar.toUpper)

instance (char : Char) (digit : Nat) : Decidable (WritesDigit char digit) :=
  inferInstanceAs (Decidable (_ ∧ _))

/-- Hexadecimal digits, the most significant one first.  There can be any number
of them but none. -/
def Numeral (token : List Char) (value : Nat) : Prop :=
  token ≠ [] ∧ ∃ digits, List.Forall₂ WritesDigit token digits ∧
    value = Nat.ofDigits 16 digits.reverse

/-- A number that fits in 64 bits, with or without a plus sign before it. -/
def Readable (token : List Char) (value : Nat) : Prop :=
  value < 2 ^ 64 ∧ (Numeral token value ∨ ∃ digits, token = '+' :: digits ∧ Numeral digits value)

/-- The low byte of a value, or zero where there is none. -/
inductive LowByte (Reads : Nat → Prop) : UInt8 → Prop where
  | value {value : Nat} (reads : Reads value) : LowByte Reads value.toUInt8
  | zero (unread : ∀ value, ¬ Reads value) : LowByte Reads 0

theorem toNat_lt_of_digit? {char : Char} {digit : Nat} (h : digit? char = some digit) :
    char.toNat < 0x80 := by
  unfold digit? at h
  simp only [Char.le_def, UInt32.le_iff_toNat_le, Char.toNat_val, Char.reduceVal,
    UInt32.reduceToNat] at h
  repeat' split at h
  · omega
  · omega
  · omega
  · contradiction

theorem digit?_eq_some_iff {char : Char} {digit : Nat} :
    digit? char = some digit ↔ WritesDigit char digit := by
  constructor
  · intro h
    have hchars : ∀ code < 0x80, ∀ digit ∈ digit? (Char.ofNat code),
        WritesDigit (Char.ofNat code) digit := by
      decide +kernel
    have hchar := hchars char.toNat (toNat_lt_of_digit? h) digit
    rw [Char.ofNat_toNat] at hchar
    exact hchar h
  · have hdigits : ∀ digit < 16, digit? digit.digitChar = some digit ∧
        digit? digit.digitChar.toUpper = some digit := by
      decide +kernel
    rintro ⟨hdigit, rfl | rfl⟩
    · exact (hdigits digit hdigit).1
    · exact (hdigits digit hdigit).2

def Extends (start : Nat) (token : List Char) (value : Nat) : Prop :=
  ∃ digits, List.Forall₂ WritesDigit token digits ∧
    value = start * 16 ^ token.length + Nat.ofDigits 16 digits.reverse

variable {token : List Char} {start value other : Nat}

theorem extends_nil : Extends start [] value ↔ value = start := by
  simp [Extends]

theorem extends_cons {char : Char} :
    Extends start (char :: token) value ↔
      ∃ digit, digit? char = some digit ∧ Extends (start * 16 + digit) token value := by
  -- The new digit moves from the front of the digits behind the start.
  have hmove : ∀ {digit : Nat} {digits : List Nat}, List.Forall₂ WritesDigit token digits →
      start * 16 ^ (token.length + 1) + Nat.ofDigits 16 (digit :: digits).reverse =
        (start * 16 + digit) * 16 ^ token.length + Nat.ofDigits 16 digits.reverse := by
    intro digit digits hdigits
    rw [Nat.ofDigits_reverse_cons, ← hdigits.length_eq]
    ring
  simp only [Extends, digit?_eq_some_iff, List.length_cons]
  constructor
  · rintro ⟨_, hall, rfl⟩
    obtain ⟨digit, digits, hdigit, hdigits, rfl⟩ := List.forall₂_cons_left_iff.mp hall
    exact ⟨digit, hdigit, digits, hdigits, hmove hdigits⟩
  · rintro ⟨digit, hdigit, digits, hdigits, rfl⟩
    exact ⟨digit :: digits, .cons hdigit hdigits, (hmove hdigits).symm⟩

theorem Extends.unique (h : Extends start token value) (hother : Extends start token other) :
    value = other := by
  induction token generalizing start with
  | nil => rw [extends_nil.mp h, extends_nil.mp hother]
  | cons char token ih =>
      obtain ⟨digit, hdigit, h⟩ := extends_cons.mp h
      obtain ⟨again, hagain, hother⟩ := extends_cons.mp hother
      obtain rfl : digit = again := Option.some.inj (hdigit.symm.trans hagain)
      exact ih h hother

theorem Extends.start_le (h : Extends start token value) : start ≤ value := by
  obtain ⟨digits, -, rfl⟩ := h
  calc start = start * 1 := (Nat.mul_one start).symm
    _ ≤ start * 16 ^ token.length := Nat.mul_le_mul_left start (Nat.one_le_pow _ _ (by decide))
    _ ≤ _ := Nat.le_add_right _ _

/-- Reading from the left stops as soon as the value is too large, which it
stays. -/
theorem digitsValue_eq_ok_iff (hstart : start < 2 ^ 64) :
    digitsValue start token = .ok value ↔ value < 2 ^ 64 ∧ Extends start token value := by
  induction token generalizing start with
  | nil =>
      rw [digitsValue, Except.ok.injEq, extends_nil]
      omega
  | cons char token ih =>
      rw [digitsValue, extends_cons]
      cases digit? char with
      | none => simp
      | some digit =>
          simp only [Option.some.injEq, exists_eq_left', show UInt64.size = 2 ^ 64 from rfl]
          split
          · next hsmall => exact ih hsmall
          · next hlarge =>
              simp only [reduceCtorEq, false_iff, not_and]
              intro hvalue h
              exact hlarge (Nat.lt_of_le_of_lt h.start_le hvalue)

theorem numeral_iff_extends : Numeral token value ↔ token ≠ [] ∧ Extends 0 token value := by
  simp [Numeral, Extends]

theorem Numeral.unique (h : Numeral token value) (hother : Numeral token other) : value = other :=
  (numeral_iff_extends.mp h).2.unique (numeral_iff_extends.mp hother).2

theorem Numeral.exists_digit (h : Numeral token value) :
    ∀ char ∈ token, ∃ digit, digit? char = some digit := by
  obtain ⟨-, digits, hdigits, -⟩ := h
  induction hdigits with
  | nil => simp
  | cons hdigit _ ih => exact List.forall_mem_cons.mpr ⟨⟨_, digit?_eq_some_iff.mpr hdigit⟩, ih⟩

theorem Numeral.lt_pow (h : Numeral token value) : value < 16 ^ token.length := by
  obtain ⟨-, digits, hdigits, rfl⟩ := h
  have hsmall : ∀ digit ∈ digits, digit < 16 := by
    induction hdigits with
    | nil => simp
    | cons hdigit _ ih => exact List.forall_mem_cons.mpr ⟨hdigit.1, ih⟩
  rw [hdigits.length_eq, ← List.length_reverse]
  exact Nat.ofDigits_lt_base_pow_length (by decide) fun digit hdigit =>
    hsmall digit (List.mem_reverse.mp hdigit)

theorem not_numeral_signed (digits : List Char) (value : Nat) :
    ¬ Numeral ('+' :: digits) value := by
  intro h
  obtain ⟨digit, hdigit⟩ := h.exists_digit '+' List.mem_cons_self
  have hsign : digit? '+' = none := by decide
  rw [hsign] at hdigit
  contradiction

theorem Numeral.readable_iff (h : Numeral token value) :
    Readable token other ↔ other = value ∧ value < 2 ^ 64 := by
  constructor
  · rintro ⟨hfits, hother | ⟨digits, rfl, -⟩⟩
    · rw [h.unique hother]
      exact ⟨rfl, hfits⟩
    · exact absurd h (not_numeral_signed digits value)
  · rintro ⟨rfl, hfits⟩
    exact ⟨hfits, .inl h⟩

theorem Readable.ne_nil (h : Readable token value) : token ≠ [] := by
  obtain ⟨-, hnumeral | ⟨digits, rfl, -⟩⟩ := h
  · exact hnumeral.1
  · simp

theorem Readable.ascii (h : Readable token value) : ∀ char ∈ token, char.toNat < 0x80 := by
  have hdigits : ∀ {digits}, Numeral digits value → ∀ char ∈ digits, char.toNat < 0x80 := by
    intro digits hnumeral char hchar
    obtain ⟨digit, hdigit⟩ := hnumeral.exists_digit char hchar
    exact toNat_lt_of_digit? hdigit
  obtain ⟨-, hnumeral | ⟨digits, rfl, hnumeral⟩⟩ := h
  · exact hdigits hnumeral
  · exact List.forall_mem_cons.mpr ⟨by decide, hdigits hnumeral⟩

theorem tokenValue_eq_ok_iff (hsome : token ≠ []) :
    tokenValue token = .ok value ↔ Readable token value := by
  have hdigits : ∀ digits, digits ≠ [] →
      (digitsValue 0 digits = .ok value ↔ value < 2 ^ 64 ∧ Numeral digits value) := by
    intro digits hdigits
    rw [digitsValue_eq_ok_iff (by decide), numeral_iff_extends, and_iff_right hdigits]
  unfold tokenValue Readable
  split
  · rw [hdigits _ (by simp)]
    simp [not_numeral_signed]
  · next hplain =>
      rw [hdigits token hsome]
      refine and_congr_right fun _ => (or_iff_left ?_).symm
      -- A sign alone is no number, and with digits it is read above.
      rintro ⟨digits, rfl, hdigits⟩
      obtain ⟨first, rest, rfl⟩ := List.exists_cons_of_ne_nil hdigits.1
      exact hplain first rest rfl

theorem Readable.unique (h : Readable token value) (hother : Readable token other) :
    value = other := by
  have hvalue := (tokenValue_eq_ok_iff h.ne_nil).mpr h
  rw [(tokenValue_eq_ok_iff h.ne_nil).mpr hother] at hvalue
  exact (Except.ok.inj hvalue).symm

theorem lowByte_tokenByte (hsome : token ≠ []) :
    LowByte (Readable token) (tokenByte token) := by
  unfold tokenByte
  split
  · next value hvalue => exact .value ((tokenValue_eq_ok_iff hsome).mp hvalue)
  · next error herror =>
      refine .zero fun value hread => ?_
      rw [(tokenValue_eq_ok_iff hsome).mpr hread] at herror
      contradiction

section LowByte

variable {Reads : Nat → Prop} {byte otherByte : UInt8}

theorem lowByte_of_reads (unique : ∀ {v w}, Reads v → Reads w → v = w) (hvalue : Reads value) :
    LowByte Reads byte ↔ byte = value.toUInt8 := by
  constructor
  · rintro (hother | hunread)
    · rw [unique hvalue hother]
    · exact absurd hvalue (hunread value)
  · rintro rfl
    exact .value hvalue

theorem lowByte_of_unread (hunread : ∀ value, ¬ Reads value) :
    LowByte Reads byte ↔ byte = 0 := by
  constructor
  · rintro (hvalue | -)
    · exact absurd hvalue (hunread _)
    · rfl
  · rintro rfl
    exact .zero hunread

theorem LowByte.unique (unique : ∀ {v w}, Reads v → Reads w → v = w) (h : LowByte Reads byte)
    (hother : LowByte Reads otherByte) : byte = otherByte := by
  obtain hvalue | hunread := h
  · exact ((lowByte_of_reads unique hvalue).mp hother).symm
  · exact ((lowByte_of_unread hunread).mp hother).symm

end LowByte

theorem tokenByte_of_readable (h : Readable token value) : tokenByte token = value.toUInt8 :=
  (lowByte_of_reads Readable.unique h).mp (lowByte_tokenByte h.ne_nil)

theorem tokenByte_of_unreadable (hsome : token ≠ []) (h : ∀ value, ¬ Readable token value) :
    tokenByte token = 0 :=
  (lowByte_of_unread h).mp (lowByte_tokenByte hsome)

theorem toUInt8_eq_zero_iff : value.toUInt8 = 0 ↔ value % 256 = 0 := by
  rw [← UInt8.toNat_inj]
  simp

theorem tokenByte_eq_zero_iff (hsome : token ≠ []) :
    tokenByte token = 0 ↔ ∀ value, Readable token value → value % 256 = 0 := by
  by_cases hreadable : ∃ value, Readable token value
  · obtain ⟨value, hvalue⟩ := hreadable
    rw [tokenByte_of_readable hvalue, toUInt8_eq_zero_iff]
    constructor
    · intro hzero other hother
      rw [← hvalue.unique hother]
      exact hzero
    · intro hzero
      exact hzero value hvalue
  · rw [not_exists] at hreadable
    simp [tokenByte_of_unreadable hsome hreadable, hreadable]

end MajiroScript.Keystream
