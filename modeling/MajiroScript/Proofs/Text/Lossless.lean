import MajiroScript.Text.Encoding

/-! Decoding loses no byte: a byte string that is read as text is the byte string
that this text is written as.  The law is about one character of a charset at a
time, and the walk over a whole byte string carries it along. -/
namespace MajiroScript.Text

/-- A character is read only from the very bytes it is written as. -/
def Charset.Lossless (charset : Charset) : Prop :=
  ∀ {byte : UInt8} {rest : Bytes} {char : Char} {more : Nat},
    charset.read byte rest = some (char, more) → charset.write char = some (byte :: rest.take more)

namespace Charset

theorem mapM_write_cons {charset : Charset} {char : Char} {chars : List Char}
    {code bytes : Bytes} (hfirst : charset.write char = some code)
    (hrest : (chars.mapM charset.write).map List.flatten = some bytes) :
    ((char :: chars).mapM charset.write).map List.flatten = some (code ++ bytes) := by
  obtain ⟨codes, hcodes, rfl⟩ := Option.map_eq_some_iff.mp hrest
  simp [List.mapM_cons, hfirst, hcodes]

theorem write_of_decodeFrom {charset : Charset} (lossless : charset.Lossless)
    {before chars : List Char} {bytes : Bytes}
    (h : charset.decodeFrom before bytes = some chars) :
    ∃ tail, chars = before.reverse ++ tail ∧
      (tail.mapM charset.write).map List.flatten = some bytes := by
  fun_induction decodeFrom charset before bytes with
  | case1 before =>
      exact ⟨[], by simpa using h.symm, rfl⟩
  | case2 before byte rest hread => contradiction
  | case3 before byte rest char more hread ih =>
      obtain ⟨tail, rfl, htail⟩ := ih h
      refine ⟨char :: tail, by simp, ?_⟩
      have hbytes := mapM_write_cons (lossless hread) htail
      rwa [List.cons_append, List.take_append_drop] at hbytes

theorem encode_of_decode {charset : Charset} (lossless : charset.Lossless) {bytes : Bytes}
    {text : String} (h : charset.decode bytes = some text) :
    charset.encode text = some bytes := by
  obtain ⟨chars, hchars, rfl⟩ := Option.map_eq_some_iff.mp h
  obtain ⟨tail, rfl, htail⟩ := write_of_decodeFrom lossless hchars
  simpa [encode] using htail

end Charset

/-- Reading looks the code up by its character again, whatever the tables hold. -/
theorem DoubleByte.lossless_charset (table : DoubleByte) : table.charset.Lossless := by
  intro byte rest char more h
  simp only [charset] at h ⊢
  split at h
  · -- A code of one byte.
    simp only [Option.ite_none_right_eq_some, Option.some.injEq, Prod.mk.injEq] at h
    obtain ⟨hwrite, rfl, rfl⟩ := h
    simpa using hwrite
  · -- A lead byte and its trail byte.
    obtain ⟨found, -, h⟩ := Option.bind_eq_some_iff.mp h
    simp only [Option.ite_none_right_eq_some, Option.some.injEq, Prod.mk.injEq] at h
    obtain ⟨hwrite, rfl, rfl⟩ := h
    simpa using hwrite
  · contradiction

namespace Utf8

theorem continued_zero {value taken more : Nat} {low high : UInt8} {rest : Bytes} {char : Char}
    (h : continued value taken low high 0 rest = .scalar char more) :
    char = Char.ofNat value ∧ more = taken := by
  simp only [continued, Front.scalar.injEq] at h
  exact ⟨h.1.symm, h.2.symm⟩

theorem continued_succ {value taken owed more : Nat} {low high : UInt8} {rest : Bytes}
    {char : Char} (h : continued value taken low high (owed + 1) rest = .scalar char more) :
    ∃ byte tail, rest = byte :: tail ∧ low.toNat ≤ byte.toNat ∧ byte.toNat ≤ high.toNat ∧
      continued (value * 64 + byte.toNat % 64) (taken + 1) 0x80 0xBF owed tail =
        .scalar char more := by
  cases rest with
  | nil => simp [continued] at h
  | cons byte tail =>
      simp only [continued] at h
      split at h
      · rename_i hrange
        exact ⟨byte, tail, rfl, UInt8.le_iff_toNat_le.mp hrange.1,
          UInt8.le_iff_toNat_le.mp hrange.2, h⟩
      · simp at h

/-- The three kinds of lead byte.  The range of the first continuation byte is
narrower where the full range would give an overlong form, a surrogate or a
value that is too large. -/
theorem lead?_cases {byte : UInt8} {lead : Lead} (h : lead? byte = some lead) :
    (lead.more = 1 ∧ 0xC2 ≤ byte.toNat ∧ byte.toNat < 0xE0 ∧ lead.bits = byte.toNat % 32 ∧
      0x80 ≤ lead.low.toNat ∧ lead.high.toNat ≤ 0xBF) ∨
    (lead.more = 2 ∧ 0xE0 ≤ byte.toNat ∧ byte.toNat < 0xF0 ∧ lead.bits = byte.toNat % 16 ∧
      0x80 ≤ lead.low.toNat ∧ lead.high.toNat ≤ 0xBF ∧
      (byte.toNat = 0xE0 → 0xA0 ≤ lead.low.toNat) ∧
      (byte.toNat = 0xED → lead.high.toNat ≤ 0x9F)) ∨
    (lead.more = 3 ∧ 0xF0 ≤ byte.toNat ∧ byte.toNat < 0xF5 ∧ lead.bits = byte.toNat % 8 ∧
      0x80 ≤ lead.low.toNat ∧ lead.high.toNat ≤ 0xBF ∧
      (byte.toNat = 0xF0 → 0x90 ≤ lead.low.toNat) ∧
      (byte.toNat = 0xF4 → lead.high.toNat ≤ 0x8F)) := by
  unfold lead? at h
  simp only [UInt8.lt_iff_toNat_lt, ← UInt8.toNat_inj, UInt8.reduceToNat] at h
  repeat' split at h
  all_goals cases h
  all_goals simp only [UInt8.reduceToNat]
  all_goals grind

theorem toNat_charOfNat {value : Nat}
    (h : value < 0xD800 ∨ 0xDFFF < value ∧ value < 0x110000) :
    (Char.ofNat value).val.toNat = value := by
  have hvalid : value.isValidChar := h
  have hchar : Char.ofNat value = Char.ofNatAux value hvalid := dif_pos hvalid
  rw [hchar]
  rfl

theorem ofNat_eq_byte {value : Nat} (byte : UInt8) (h : value = byte.toNat) :
    UInt8.ofNat value = byte := by
  rw [h, UInt8.ofNat_toNat]

def IsContinuation (byte : UInt8) : Prop :=
  0x80 ≤ byte.toNat ∧ byte.toNat ≤ 0xBF

theorem utf8EncodeChar_single {byte : UInt8} (hbyte : byte.toNat < 0x80) :
    String.utf8EncodeChar (Char.ofNat byte.toNat) = [byte] := by
  unfold String.utf8EncodeChar
  rw [toNat_charOfNat (by omega)]
  simp only [show byte.toNat ≤ 0x7f by omega, if_true, UInt8.ofNat_toNat]

theorem utf8EncodeChar_pair {lead second : UInt8} (hlead : 0xC2 ≤ lead.toNat ∧ lead.toNat < 0xE0)
    (hsecond : IsContinuation second) :
    String.utf8EncodeChar (Char.ofNat (lead.toNat % 32 * 64 + second.toNat % 64)) =
      [lead, second] := by
  unfold IsContinuation at hsecond
  unfold String.utf8EncodeChar
  generalize hvalue : lead.toNat % 32 * 64 + second.toNat % 64 = value
  rw [toNat_charOfNat (by omega)]
  simp only [show ¬ value ≤ 0x7f by omega, show value ≤ 0x7ff by omega, if_true, if_false]
  rw [ofNat_eq_byte lead (by omega), ofNat_eq_byte second (by omega)]

theorem utf8EncodeChar_triple {lead second third : UInt8}
    (hlead : 0xE0 ≤ lead.toNat ∧ lead.toNat < 0xF0) (hsecond : IsContinuation second)
    (hthird : IsContinuation third) (overlong : lead.toNat = 0xE0 → 0xA0 ≤ second.toNat)
    (surrogate : lead.toNat = 0xED → second.toNat ≤ 0x9F) :
    String.utf8EncodeChar (Char.ofNat
      ((lead.toNat % 16 * 64 + second.toNat % 64) * 64 + third.toNat % 64)) =
      [lead, second, third] := by
  unfold IsContinuation at hsecond hthird
  unfold String.utf8EncodeChar
  generalize hvalue : (lead.toNat % 16 * 64 + second.toNat % 64) * 64 + third.toNat % 64 = value
  have hvalid : value < 0xD800 ∨ 0xDFFF < value ∧ value < 0x110000 := by omega
  rw [toNat_charOfNat hvalid]
  simp only [show ¬ value ≤ 0x7f by omega, show ¬ value ≤ 0x7ff by omega,
    show value ≤ 0xffff by omega, if_true, if_false]
  rw [ofNat_eq_byte lead (by omega), ofNat_eq_byte second (by omega),
    ofNat_eq_byte third (by omega)]

theorem utf8EncodeChar_quad {lead second third fourth : UInt8}
    (hlead : 0xF0 ≤ lead.toNat ∧ lead.toNat < 0xF5) (hsecond : IsContinuation second)
    (hthird : IsContinuation third) (hfourth : IsContinuation fourth)
    (overlong : lead.toNat = 0xF0 → 0x90 ≤ second.toNat)
    (tooLarge : lead.toNat = 0xF4 → second.toNat ≤ 0x8F) :
    String.utf8EncodeChar (Char.ofNat
      (((lead.toNat % 8 * 64 + second.toNat % 64) * 64 + third.toNat % 64) * 64 +
        fourth.toNat % 64)) =
      [lead, second, third, fourth] := by
  unfold IsContinuation at hsecond hthird hfourth
  unfold String.utf8EncodeChar
  generalize hvalue : ((lead.toNat % 8 * 64 + second.toNat % 64) * 64 + third.toNat % 64) * 64 +
    fourth.toNat % 64 = value
  have hvalid : value < 0xD800 ∨ 0xDFFF < value ∧ value < 0x110000 := by omega
  rw [toNat_charOfNat hvalid]
  simp only [show ¬ value ≤ 0x7f by omega, show ¬ value ≤ 0x7ff by omega,
    show ¬ value ≤ 0xffff by omega, if_false]
  rw [ofNat_eq_byte lead (by omega), ofNat_eq_byte second (by omega),
    ofNat_eq_byte third (by omega), ofNat_eq_byte fourth (by omega)]

theorem utf8EncodeChar_of_continued {byte : UInt8} {rest : Bytes} {char : Char} {more : Nat}
    {lead : Lead} (hlead : lead? byte = some lead)
    (h : continued lead.bits 0 lead.low lead.high lead.more rest = .scalar char more) :
    String.utf8EncodeChar char = byte :: rest.take more := by
  obtain ⟨hmore, hfrom, hto, hbits, hlow, hhigh⟩ |
    ⟨hmore, hfrom, hto, hbits, hlow, hhigh, overlong, surrogate⟩ |
    ⟨hmore, hfrom, hto, hbits, hlow, hhigh, overlong, tooLarge⟩ := lead?_cases hlead
  · rw [hmore, hbits] at h
    obtain ⟨second, rest, rfl, hsecond, hsecond', h⟩ := continued_succ h
    obtain ⟨rfl, rfl⟩ := continued_zero h
    exact utf8EncodeChar_pair ⟨hfrom, hto⟩ ⟨by omega, by omega⟩
  · rw [hmore, hbits] at h
    obtain ⟨second, rest, rfl, hsecond, hsecond', h⟩ := continued_succ h
    obtain ⟨third, rest, rfl, hthird, hthird', h⟩ := continued_succ h
    obtain ⟨rfl, rfl⟩ := continued_zero h
    exact utf8EncodeChar_triple ⟨hfrom, hto⟩ ⟨by omega, by omega⟩ ⟨hthird, hthird'⟩
      (fun hbyte => Nat.le_trans (overlong hbyte) hsecond)
      (fun hbyte => Nat.le_trans hsecond' (surrogate hbyte))
  · rw [hmore, hbits] at h
    obtain ⟨second, rest, rfl, hsecond, hsecond', h⟩ := continued_succ h
    obtain ⟨third, rest, rfl, hthird, hthird', h⟩ := continued_succ h
    obtain ⟨fourth, rest, rfl, hfourth, hfourth', h⟩ := continued_succ h
    obtain ⟨rfl, rfl⟩ := continued_zero h
    exact utf8EncodeChar_quad ⟨hfrom, hto⟩ ⟨by omega, by omega⟩ ⟨hthird, hthird'⟩
      ⟨hfourth, hfourth'⟩ (fun hbyte => Nat.le_trans (overlong hbyte) hsecond)
      (fun hbyte => Nat.le_trans hsecond' (tooLarge hbyte))

theorem utf8EncodeChar_of_front {byte : UInt8} {rest : Bytes} {char : Char} {more : Nat}
    (h : front byte rest = .scalar char more) :
    String.utf8EncodeChar char = byte :: rest.take more := by
  unfold front at h
  split at h
  · rename_i hbyte
    simp only [Front.scalar.injEq] at h
    obtain ⟨rfl, rfl⟩ := h
    exact utf8EncodeChar_single (UInt8.lt_iff_toNat_lt.mp hbyte)
  · split at h
    · contradiction
    · rename_i lead hlead
      exact utf8EncodeChar_of_continued hlead h

theorem lossless_charset : charset.Lossless := by
  intro byte rest char more h
  simp only [charset] at h ⊢
  split at h
  · rename_i found taken hfront
    obtain ⟨rfl, rfl⟩ := Prod.mk.inj (Option.some.inj h)
    rw [utf8EncodeChar_of_front hfront]
  · contradiction

end Utf8

namespace Encoding

theorem lossless_charset (encoding : Encoding) : encoding.charset.Lossless := by
  cases encoding with
  | shiftJis => exact ShiftJis.table.lossless_charset
  | gbk => exact Gbk.table.lossless_charset
  | utf8 => exact Utf8.lossless_charset

theorem encode_of_decodeExact {encoding : Encoding} {bytes : Bytes} {text : String}
    (h : encoding.decodeExact bytes = some text) : encoding.encode text = some bytes :=
  Charset.encode_of_decode encoding.lossless_charset h

end Encoding

end MajiroScript.Text
