import MajiroScript.Proofs.Text.Correspondence

/-! Texts one behind the other.  A charset finds the end of a character in the
bytes of that character, so a byte string that is text up to its end parts what
stands behind it from what stands before, and a lead byte never takes its trail
byte from another text. -/
namespace MajiroScript.Text

/-- A character ends inside the bytes that it is read from, and it is read the
same way with other bytes behind these. -/
def Charset.SelfDelimiting (charset : Charset) : Prop :=
  ∀ {byte : UInt8} {rest : Bytes} {char : Char} {more : Nat},
    charset.read byte rest = some (char, more) →
      more ≤ rest.length ∧ ∀ behind, charset.read byte (rest ++ behind) = some (char, more)

namespace Charset

variable {charset : Charset}

theorem selfDelimiting_of_readsBack {change : Char → Char} (lossless : charset.Lossless)
    (readsBack : charset.ReadsBack change) : charset.SelfDelimiting := by
  -- What is read is what is written, and this is read in front of anything.
  intro byte rest char more h
  obtain ⟨first, others, hcode, hread⟩ := readsBack (lossless h)
  obtain ⟨rfl, rfl⟩ := List.cons.inj hcode
  have hsame := hread (rest.drop more)
  rw [List.take_append_drop, h, Option.some.injEq, Prod.mk.injEq] at hsame
  obtain ⟨hchar, hmore⟩ := hsame
  refine ⟨?_, fun behind => ?_⟩
  · rw [hmore, List.length_take]
    exact Nat.min_le_right _ _
  · have hlonger := hread (rest.drop more ++ behind)
    rwa [← List.append_assoc, List.take_append_drop, ← hchar, ← hmore] at hlonger

theorem decodeFrom_after (charset : Charset) (earlier before : List Char) (bytes : Bytes) :
    charset.decodeFrom (before ++ earlier) bytes =
      (charset.decodeFrom before bytes).map (earlier.reverse ++ ·) := by
  fun_induction decodeFrom charset before bytes with
  | case1 before => simp [decodeFrom]
  | case2 before byte rest hread => simp [decodeFrom, hread]
  | case3 before byte rest char more hread ih =>
      rw [decodeFrom, hread]
      exact ih

theorem decodeFrom_append (selfDelimiting : charset.SelfDelimiting) {before chars : List Char}
    {bytes : Bytes} (h : charset.decodeFrom before bytes = some chars) (behind : Bytes) :
    charset.decodeFrom before (bytes ++ behind) = charset.decodeFrom chars.reverse behind := by
  fun_induction decodeFrom charset before bytes with
  | case1 before =>
      obtain rfl := Option.some.inj h
      rw [List.nil_append, List.reverse_reverse]
  | case2 before byte rest hread => contradiction
  | case3 before byte rest char more hread ih =>
      obtain ⟨hinside, hlonger⟩ := selfDelimiting hread
      rw [List.cons_append, decodeFrom, hlonger]
      dsimp only
      rw [List.drop_append_of_le_length hinside]
      exact ih h

theorem decode_append (selfDelimiting : charset.SelfDelimiting) {bytes : Bytes} {text : String}
    (h : charset.decode bytes = some text) (behind : Bytes) :
    charset.decode (bytes ++ behind) = (charset.decode behind).map (text ++ ·) := by
  obtain ⟨chars, hchars, rfl⟩ := Option.map_eq_some_iff.mp h
  have hbehind : charset.decodeFrom chars.reverse behind =
      (charset.decodeFrom [] behind).map (chars ++ ·) := by
    simpa using charset.decodeFrom_after chars.reverse [] behind
  rw [decode, decodeFrom_append selfDelimiting hchars, hbehind, decode, Option.map_map,
    Option.map_map]
  simp only [Function.comp_def, String.ofList_append]

theorem encode_append (charset : Charset) (text other : String) :
    charset.encode (text ++ other) =
      (charset.encode text).bind fun bytes => (charset.encode other).map (bytes ++ ·) := by
  unfold encode
  rw [String.toList_append, List.mapM_append]
  cases text.toList.mapM charset.write with
  | none => rfl
  | some codes =>
      cases other.toList.mapM charset.write with
      | none => rfl
      | some others => simp

end Charset

namespace Encoding

theorem selfDelimiting_charset (encoding : Encoding) : encoding.charset.SelfDelimiting :=
  Charset.selfDelimiting_of_readsBack encoding.lossless_charset encoding.readsBack_charset

/-- Bytes that are text are read the same way in front of others, and these as
they would be alone.  Texts are written one behind the other, if both can be
written. -/
theorem decodeExact_encode_append (encoding : Encoding) :
    (∀ bytes text, encoding.decodeExact bytes = some text → ∀ behind,
      encoding.decodeExact (bytes ++ behind) =
        match encoding.decodeExact behind with
        | some other => some (text ++ other)
        | none => none) ∧
    ∀ text other, encoding.encode (text ++ other) =
      match encoding.encode text, encoding.encode other with
      | some bytes, some behind => some (bytes ++ behind)
      | _, _ => none := by
  constructor
  · intro bytes text h behind
    rw [decodeExact, Charset.decode_append encoding.selfDelimiting_charset h]
    change (encoding.decodeExact behind).map (text ++ ·) = _
    cases encoding.decodeExact behind with
    | none => rfl
    | some other => rfl
  · intro text other
    rw [encode, Charset.encode_append]
    change ((encoding.encode text).bind fun bytes => (encoding.encode other).map (bytes ++ ·)) = _
    cases encoding.encode text with
    | none => rfl
    | some bytes =>
        cases encoding.encode other with
        | none => rfl
        | some behind => rfl

theorem decodeExact_encode_append_cut :
    decodeExact utf8 [0xE3, 0x81, 0x82] = some "あ" ∧
    decodeExact utf8 ([0xE3, 0x81, 0x82] ++ [0xC3, 0xA9]) = some ("あ" ++ "é") ∧
    decodeExact utf8 ([0xE3, 0x81, 0x82] ++ [0xE3, 0x81]) = none ∧
    decodeExact shiftJis [0x5C] = some "\\" ∧
    decodeExact shiftJis ([0x5C] ++ [0x82]) = none ∧
    decodeExact shiftJis ([0x82, 0xA0] ++ [0x5C]) = some ("あ" ++ "\\") ∧
    decodeExact shiftJis ([0x82, 0xA0] ++ [0x82]) = none := by
  have hkana : decodeExact utf8 [0xE3, 0x81, 0x82] = some "あ" := by decide +kernel
  have hletter : decodeExact utf8 [0xC3, 0xA9] = some "é" := by decide +kernel
  have hcut : decodeExact utf8 [0xE3, 0x81] = none := by decide +kernel
  have hslash : decodeExact shiftJis [0x5C] = some "\\" := by decide +kernel
  have hlead : decodeExact shiftJis [0x82] = none := by decide +kernel
  have hwrite : shiftJis.charset.write 'あ' = some [0x82, 0xA0] := ShiftJis.write_kana
  have hpair : decodeExact shiftJis [0x82, 0xA0] = some "あ" :=
    decodeExact_singleton_iff.mpr ⟨hwrite, by decide⟩
  refine ⟨hkana, ?_, ?_, hslash, ?_, ?_, ?_⟩
  · rw [(decodeExact_encode_append utf8).1 _ _ hkana, hletter]
  · rw [(decodeExact_encode_append utf8).1 _ _ hkana, hcut]
  · rw [(decodeExact_encode_append shiftJis).1 _ _ hslash, hlead]
  · rw [(decodeExact_encode_append shiftJis).1 _ _ hpair, hslash]
  · rw [(decodeExact_encode_append shiftJis).1 _ _ hpair, hlead]

end Encoding

end MajiroScript.Text
