import Mathlib.Data.Bool.AllAny
import MajiroScript.Proofs.Records
import MajiroScript.Proofs.Text.WellFormed

/-! Texts and byte strings correspond to each other, up to the characters that an
encoding writes and never reads.  What is read is written to the same bytes, and
what is written is read with the characters that these bytes belong to. -/
namespace MajiroScript.Text

namespace DoubleByte

variable {table : DoubleByte}

theorem code_of_pair (lead trail : UInt8) :
    [((lead.toNat * 0x100 + trail.toNat) / 0x100).toUInt8,
      (lead.toNat * 0x100 + trail.toNat).toUInt8] = [lead, trail] := by
  have htrail := trail.toNat_lt
  have hfirst : (lead.toNat * 0x100 + trail.toNat) / 0x100 = lead.toNat := by omega
  have hsecond : (lead.toNat * 0x100 + trail.toNat).toUInt8 = trail := by
    apply UInt8.toNat_inj.mp
    rw [Nat.toUInt8_eq, UInt8.toNat_ofNat']
    omega
  rw [hfirst, hsecond, Nat.toUInt8_eq, UInt8.ofNat_toNat]

theorem pair_lt (lead trail : UInt8) : lead.toNat * 0x100 + trail.toNat < 0x10000 := by
  have hlead := lead.toNat_lt
  have htrail := trail.toNat_lt
  omega

theorem pair_mem_codes (lead trail : UInt8) : [lead, trail] ∈ codes :=
  List.mem_append_right _ (List.mem_map.mpr
    ⟨_, List.mem_range.mpr (pair_lt lead trail), code_of_pair lead trail⟩)

theorem mem_index {code : Bytes} {char : Char} (hcode : code ∈ codes)
    (hchar : table.char? code = some char) : char ∈ table.index := by
  rw [Std.HashMap.mem_iff_isSome_getElem?, getElem?_index, List.find?_isSome]
  exact ⟨code, hcode, decide_eq_true hchar⟩

/-- A character that no single byte and no earlier pair stands for is written with
this pair. -/
theorem getElem?_index_of_pair {lead trail : UInt8} {char : Char}
    (hchar : table.char? [lead, trail] = some char)
    (hsingle : ∀ byte, table.char? [byte] ≠ some char)
    (hearlier : ∀ before behind, before < lead ∨ before = lead ∧ behind < trail →
      table.char? [before, behind] ≠ some char) :
    table.index[char]? = some [lead, trail] := by
  have hnone : ((List.range 0x100).map fun byte => [byte.toUInt8]).find?
      (table.char? · = some char) = none := by
    simp [hsingle]
  have hpair : (List.range 0x10000).find? ((fun code => table.char? code = some char) ∘
      fun pair => [(pair / 0x100).toUInt8, pair.toUInt8]) =
        some (lead.toNat * 0x100 + trail.toNat) := by
    refine List.find?_range_eq_some.mpr ⟨?_, List.mem_range.mpr (pair_lt lead trail), ?_⟩
    · exact decide_eq_true ((congrArg table.char? (code_of_pair lead trail)).trans hchar)
    · intro pair hpair
      have hbefore : (pair / 0x100).toUInt8 < lead ∨
          (pair / 0x100).toUInt8 = lead ∧ pair.toUInt8 < trail := by
        have hlead := lead.toNat_lt
        have htrail := trail.toNat_lt
        simp only [UInt8.lt_iff_toNat_lt, ← UInt8.toNat_inj, Nat.toUInt8_eq, UInt8.toNat_ofNat']
        omega
      simpa using hearlier _ _ hbefore
  rw [getElem?_index, codes, List.find?_append, hnone, Option.none_or, List.find?_map, hpair,
    Option.map_some, code_of_pair]

theorem char?_pair {lead : UInt8} (hlead : table.single lead = none) (trail : UInt8) :
    table.char? [lead, trail] = table.double lead trail := by
  simp only [char?, hlead, Option.isSome_none, Bool.false_eq_true, if_false]

theorem exists_write_of_double (table : DoubleByte) {char : Char} {lead trail : UInt8}
    (hlead : table.single lead = none)
    (hpair : table.double lead trail = some (table.standIn char)) :
    ∃ code, table.charset.write char = some code := by
  have hmem := mem_index (pair_mem_codes lead trail) ((char?_pair hlead trail).trans hpair)
  -- ASCII needs no index.
  change ∃ code, code? table.index (table.standIn char) = some code
  unfold code?
  split
  · exact ⟨_, rfl⟩
  · exact ⟨_, Std.HashMap.getElem?_eq_some_getElem hmem⟩

theorem cell?_of_row {rows : List (UInt8 × String)} {lead : UInt8} {chars : List Char}
    (hrow : (rows.lookup lead).map String.toList = some chars) (trail : UInt8) :
    cell? (cells rows) lead trail =
      (column? trail).bind fun column => chars[column]?.filter (· ≠ '.') := by
  obtain ⟨row, hfound, rfl⟩ := Option.map_eq_some_iff.mp hrow
  have hlead : (cells rows)[lead.toNat]? = some row.toList.toArray := by
    have hrange : (List.range 0x100)[lead.toNat]? = some lead.toNat :=
      List.getElem?_range lead.toNat_lt
    unfold cells
    rw [List.getElem?_toArray, List.getElem?_map, hrange, Option.map_some, Nat.toUInt8_eq,
      UInt8.ofNat_toNat, hfound, Option.getD_some]
  unfold cell?
  cases column? trail with
  | none => rfl
  | some column =>
      simp only [hlead, List.getElem?_toArray, Option.bind_eq_bind, Option.bind_some]
      cases row.toList[column]? with
      | none => rfl
      | some char => by_cases h : char = '.' <;> simp [h, Option.filter]

end DoubleByte

/-- The characters of a row that is written in pieces.  A row is evaluated as a
list of characters, since a string is far slower to take apart. -/
theorem toList_append_ofList {text : String} {chars : List Char} (h : text.toList = chars)
    (more : List Char) : (text ++ String.ofList more).toList = chars ++ more := by
  rw [String.toList_append, h, String.toList_ofList]

namespace ShiftJis

def encodeOnly : List Char := ['\u00a5', '\u203e', '\u2212']

theorem standIn_ne : ∀ char ∈ encodeOnly, standIn char ≠ char :=
  List.all_iff_forall_prop.mp (by decide)

theorem mem_encodeOnly_of_ne {char : Char} (h : standIn char ≠ char) : char ∈ encodeOnly := by
  revert h
  fun_cases standIn char
  case case4 => exact fun h => (h rfl).elim
  all_goals decide

set_option maxRecDepth 1000 in
theorem double_minus : table.double 0x81 0x7C = some (standIn '\u2212') := by
  have hrow : (rows.lookup 0x81).map String.toList = some _ := congrArg some
    (toList_append_ofList (toList_append_ofList String.toList_ofList _) _)
  change DoubleByte.cell? (DoubleByte.cells rows) 0x81 0x7C = _
  rw [DoubleByte.cell?_of_row hrow]
  decide +kernel

theorem exists_write {char : Char} (h : char ∈ encodeOnly) :
    ∃ code, charset.write char = some code := by
  simp only [encodeOnly, List.mem_cons, List.not_mem_nil, or_false] at h
  obtain rfl | rfl | rfl := h
  · exact ⟨[0x5C], rfl⟩
  · exact ⟨[0x7E], rfl⟩
  · exact table.exists_write_of_double rfl double_minus

theorem toNat_of_single {byte : UInt8} {char : Char} (h : single byte = some char) :
    char.val.toNat ≤ 0x80 ∨ 0xFF61 ≤ char.val.toNat := by
  have hbyte := byte.toNat_lt
  unfold single at h
  split at h
  · rename_i hlow
    obtain rfl := Option.some.inj h
    rw [Utf8.toNat_charOfNat (.inl (by omega))]
    exact .inl (UInt8.le_iff_toNat_le.mp hlow)
  · split at h
    · obtain rfl := Option.some.inj h
      rw [Utf8.toNat_charOfNat (.inr (by omega))]
      exact .inr (Nat.le_add_right _ _)
    · contradiction

theorem single_ne_kana (byte : UInt8) : table.char? [byte] ≠ some 'あ' := by
  intro h
  have hkana := toNat_of_single h
  revert hkana
  decide

set_option maxRecDepth 1000 in
theorem double_kana : table.double 0x82 0xA0 = some 'あ' ∧
    (∀ trail, table.double 0x81 trail ≠ some 'あ') ∧
      ∀ trail < 0xA0, table.double 0x82 trail ≠ some 'あ' := by
  have hfirst : (rows.lookup 0x81).map String.toList = some _ := congrArg some
    (toList_append_ofList (toList_append_ofList String.toList_ofList _) _)
  have hsecond : (rows.lookup 0x82).map String.toList = some _ := congrArg some
    (toList_append_ofList (toList_append_ofList String.toList_ofList _) _)
  have hcells : DoubleByte.cell? (DoubleByte.cells rows) 0x82 0xA0 = some 'あ' ∧
      (∀ value < 0x100,
        DoubleByte.cell? (DoubleByte.cells rows) 0x81 (UInt8.ofNat value) ≠ some 'あ') ∧
        ∀ value < 0xA0,
          DoubleByte.cell? (DoubleByte.cells rows) 0x82 (UInt8.ofNat value) ≠ some 'あ' := by
    simp only [DoubleByte.cell?_of_row hfirst, DoubleByte.cell?_of_row hsecond]
    decide +kernel
  obtain ⟨hkana, hrow, hbefore⟩ := hcells
  refine ⟨hkana, ?_, ?_⟩
  · intro trail
    have hcell := hrow trail.toNat trail.toNat_lt
    rwa [UInt8.ofNat_toNat] at hcell
  · intro trail htrail
    have hcell := hbefore trail.toNat (UInt8.lt_iff_toNat_lt.mp htrail)
    rwa [UInt8.ofNat_toNat] at hcell

theorem lead_of_single_eq_none {byte : UInt8} (h : single byte = none) : 0x81 ≤ byte := by
  unfold single at h
  split at h
  · contradiction
  · rename_i hlow
    rw [UInt8.le_iff_toNat_le] at hlow ⊢
    exact Nat.lt_of_not_le hlow

theorem earlier_ne_kana {before behind : UInt8}
    (h : before < 0x82 ∨ before = 0x82 ∧ behind < 0xA0) :
    table.char? [before, behind] ≠ some 'あ' := by
  intro hchar
  cases hsingle : table.single before with
  | some char => simp [DoubleByte.char?, hsingle] at hchar
  | none =>
      have hdouble := (DoubleByte.char?_pair hsingle behind).symm.trans hchar
      obtain hlow | ⟨rfl, hbehind⟩ := h
      · have hlead := lead_of_single_eq_none hsingle
        obtain rfl : before = 0x81 := by
          simp only [UInt8.lt_iff_toNat_lt, UInt8.le_iff_toNat_le, ← UInt8.toNat_inj,
            UInt8.reduceToNat] at *
          omega
        exact double_kana.2.1 behind hdouble
      · exact double_kana.2.2 behind hbehind hdouble

theorem write_kana : charset.write 'あ' = some [0x82, 0xA0] :=
  DoubleByte.getElem?_index_of_pair double_kana.1 single_ne_kana fun _ _ => earlier_ne_kana

end ShiftJis

namespace Gbk

/-- Forms of punctuation for vertical text, with their trail bytes behind A6. -/
def verticalForms : List (Char × UInt8) :=
  [('\ue78d', 0xD9), ('\ue78e', 0xDA), ('\ue78f', 0xDB), ('\ue790', 0xDC), ('\ue791', 0xDD),
   ('\ue792', 0xDE), ('\ue793', 0xDF), ('\ue794', 0xEC), ('\ue795', 0xED), ('\ue796', 0xF3)]

/-- Components of ideographs, with their trail bytes behind FE. -/
def components : List (Char × UInt8) :=
  [('\ue81e', 0x59), ('\ue826', 0x61), ('\ue82b', 0x66), ('\ue82c', 0x67), ('\ue832', 0x6D),
   ('\ue843', 0x7E), ('\ue854', 0x90), ('\ue864', 0xA0)]

def encodeOnly : List Char :=
  (verticalForms ++ components).map Prod.fst

theorem standIn_ne : ∀ char ∈ encodeOnly, standIn char ≠ char :=
  List.all_iff_forall_prop.mp (by decide)

theorem mem_encodeOnly_of_ne {char : Char} (h : standIn char ≠ char) : char ∈ encodeOnly := by
  revert h
  fun_cases standIn char
  case case19 => exact fun h => (h rfl).elim
  all_goals decide

theorem double_of_row {lead : UInt8} {chars : List Char}
    (hrow : (rows.lookup lead).map String.toList = some chars) (trail : UInt8) :
    double lead trail = (userDefined? lead trail <|>
      (DoubleByte.column? trail).bind fun column => chars[column]?.filter (· ≠ '.')) := by
  rw [double, cells, DoubleByte.cell?_of_row hrow]

set_option maxRecDepth 1000 in
theorem double_verticalForms :
    ∀ form ∈ verticalForms, double 0xA6 form.2 = some (standIn form.1) := by
  have hrow : (rows.lookup 0xA6).map String.toList = some _ := congrArg some
    (toList_append_ofList (toList_append_ofList String.toList_ofList _) _)
  simp only [double_of_row hrow]
  exact List.all_iff_forall_prop.mp (by decide +kernel)

set_option maxRecDepth 1000 in
theorem double_components :
    ∀ form ∈ components, double 0xFE form.2 = some (standIn form.1) := by
  have hrow : (rows.lookup 0xFE).map String.toList = some _ := congrArg some
    (toList_append_ofList String.toList_ofList _)
  simp only [double_of_row hrow]
  exact List.all_iff_forall_prop.mp (by decide +kernel)

theorem exists_write {char : Char} (h : char ∈ encodeOnly) :
    ∃ code, charset.write char = some code := by
  obtain ⟨form, hform, rfl⟩ := List.mem_map.mp h
  rcases List.mem_append.mp hform with hform | hform
  · exact table.exists_write_of_double rfl (double_verticalForms form hform)
  · exact table.exists_write_of_double rfl (double_components form hform)

end Gbk

namespace Encoding

/-- The characters that an encoding writes and never reads. -/
def encodeOnly : Encoding → List Char
  | shiftJis => ShiftJis.encodeOnly
  | gbk => Gbk.encodeOnly
  | utf8 => []

variable {encoding : Encoding} {text : String} {bytes code : Bytes} {char : Char}

theorem mem_encodeOnly_iff : char ∈ encoding.encodeOnly ↔ encoding.readBack char ≠ char := by
  cases encoding with
  | shiftJis => exact ⟨ShiftJis.standIn_ne char, ShiftJis.mem_encodeOnly_of_ne⟩
  | gbk => exact ⟨Gbk.standIn_ne char, Gbk.mem_encodeOnly_of_ne⟩
  | utf8 => exact ⟨fun h => (List.not_mem_nil h).elim, fun h => (h rfl).elim⟩

theorem exists_write (h : char ∈ encoding.encodeOnly) :
    ∃ code, encoding.charset.write char = some code := by
  cases encoding with
  | shiftJis => exact ShiftJis.exists_write h
  | gbk => exact Gbk.exists_write h
  | utf8 => exact (List.not_mem_nil h).elim

theorem map_readBack_eq_self_iff :
    text.map encoding.readBack = text ↔ ∀ char ∈ text.toList, char ∉ encoding.encodeOnly := by
  simp only [map_readBack_eq_iff, mem_encodeOnly_iff, not_not]

theorem decodeExact_eq_some_iff :
    encoding.decodeExact bytes = some text ↔
      encoding.encode text = some bytes ∧ ∀ char ∈ text.toList, char ∉ encoding.encodeOnly := by
  constructor
  · intro h
    have hencode := encode_of_decodeExact h
    have hback : some (text.map encoding.readBack) = some text :=
      (decodeExact_of_encode hencode).symm.trans h
    exact ⟨hencode, map_readBack_eq_self_iff.mp (Option.some.inj hback)⟩
  · rintro ⟨hencode, hread⟩
    rw [decodeExact_of_encode hencode, map_readBack_eq_self_iff.mpr hread]

theorem decodeExact_ne_none_iff :
    encoding.decodeExact bytes ≠ none ↔ ∃ text, encoding.encode text = some bytes := by
  constructor
  · intro h
    obtain ⟨text, htext⟩ := Option.ne_none_iff_exists'.mp h
    exact ⟨text, encode_of_decodeExact htext⟩
  · rintro ⟨text, htext⟩
    rw [decodeExact_of_encode htext]
    exact Option.some_ne_none _

theorem encode_singleton :
    encoding.encode (String.singleton char) = encoding.charset.write char := by
  unfold encode Charset.encode
  rw [String.toList_singleton]
  cases h : encoding.charset.write char <;> simp [h]

theorem decodeExact_singleton_iff :
    encoding.decodeExact code = some (String.singleton char) ↔
      encoding.charset.write char = some code ∧ char ∉ encoding.encodeOnly := by
  rw [decodeExact_eq_some_iff, encode_singleton, String.toList_singleton]
  simp only [List.mem_singleton, forall_eq]

theorem mem_encodeOnly_iff_not_read :
    char ∈ encoding.encodeOnly ↔
      (∃ code, encoding.charset.write char = some code) ∧
        ∀ bytes text, encoding.decodeExact bytes = some text → char ∉ text.toList := by
  constructor
  · intro h
    refine ⟨exists_write h, ?_⟩
    intro bytes text hdecode hmem
    exact (decodeExact_eq_some_iff.mp hdecode).2 char hmem h
  · rintro ⟨⟨code, hwrite⟩, hread⟩
    by_contra h
    apply hread code _ (decodeExact_singleton_iff.mpr ⟨hwrite, h⟩)
    rw [String.toList_singleton]
    exact List.mem_singleton_self char

theorem eq_readBack_iff (h : encoding.charset.write char = some code) (other : Char) :
    other = encoding.readBack char ↔
      encoding.charset.write other = some code ∧ other ∉ encoding.encodeOnly := by
  have hsingle : (String.singleton char).map encoding.readBack =
      String.singleton (encoding.readBack char) := by
    rw [← String.toList_inj, String.toList_map, String.toList_singleton,
      String.toList_singleton, List.map_singleton]
  have hdecode : encoding.decodeExact code =
      some (String.singleton (encoding.readBack char)) := by
    rw [decodeExact_of_encode (encode_singleton.trans h), hsingle]
  rw [← decodeExact_singleton_iff, hdecode, Option.some.injEq, ← String.toList_inj,
    String.toList_singleton, String.toList_singleton, List.singleton_inj]
  exact eq_comm

/-- What is written is read with each character that is only written replaced by
the one whose bytes it has, and the byte strings that can be read are the ones
that are written. -/
theorem decodeExact_encode (encoding : Encoding) :
    (∀ text bytes, encoding.encode text = some bytes →
      encoding.decodeExact bytes = some (text.map encoding.readBack) ∧
        (encoding.decodeExact bytes = some text ↔
          ∀ char ∈ text.toList, char ∉ encoding.encodeOnly)) ∧
    (∀ bytes, encoding.decodeExact bytes ≠ none ↔ ∃ text, encoding.encode text = some bytes) ∧
    (∀ char, char ∈ encoding.encodeOnly ↔
      (∃ code, encoding.charset.write char = some code) ∧
        ∀ bytes text, encoding.decodeExact bytes = some text → char ∉ text.toList) ∧
    (∀ char code, encoding.charset.write char = some code → ∀ other,
      other = encoding.readBack char ↔
        encoding.charset.write other = some code ∧ other ∉ encoding.encodeOnly) ∧
    encodeOnly utf8 = [] ∧
    ∀ bytes, decodeExact utf8 bytes ≠ none ↔ Utf8.WellFormed bytes := by
  refine ⟨?_, fun bytes => decodeExact_ne_none_iff, fun char => mem_encodeOnly_iff_not_read,
    fun char code => eq_readBack_iff, rfl, ?_⟩
  · intro text bytes h
    have hdecode := decodeExact_of_encode h
    refine ⟨hdecode, ?_⟩
    rw [hdecode, Option.some.injEq]
    exact map_readBack_eq_self_iff
  · intro bytes
    rw [decodeExact_ne_none_iff, Utf8.wellFormed_iff_exists_encode]
    rfl

theorem decodeExact_encode_replaced :
    encode shiftJis "¥100" = some [0x5C, 0x31, 0x30, 0x30] ∧
    decodeExact shiftJis [0x5C, 0x31, 0x30, 0x30] = some "\\100" ∧
    decodeExact shiftJis [0x5C, 0x31, 0x30, 0x30] ≠ some "¥100" ∧
    ∃ code, gbk.charset.write '\ue81e' = some code ∧
      gbk.charset.write '\u9fb4' = some code := by
  have hencode : encode shiftJis "¥100" = some [0x5C, 0x31, 0x30, 0x30] := by decide +kernel
  have hback : "¥100".map shiftJis.readBack = "\\100" := by decide +kernel
  obtain ⟨hdecode, hsame⟩ := (decodeExact_encode shiftJis).1 _ _ hencode
  obtain ⟨-, -, honly, hshared, -⟩ := decodeExact_encode gbk
  obtain ⟨⟨code, hcode⟩, -⟩ := (honly '\ue81e').mp (by decide)
  refine ⟨hencode, hdecode.trans (congrArg some hback), ?_, code, hcode,
    ((hshared _ _ hcode '\u9fb4').mp rfl).1⟩
  intro h
  exact hsame.mp h '¥' (by decide +kernel) (by decide)

/-- What is read is written to the same bytes.  So no two byte strings are read
as the same text, and a text that was read makes an operand as long as its bytes
were, if a length field can count them. -/
theorem encode_decodeExact (encoding : Encoding) :
    (∀ bytes text, encoding.decodeExact bytes = some text ↔
      encoding.encode text = some bytes ∧ ∀ char ∈ text.toList, char ∉ encoding.encodeOnly) ∧
    (∀ bytes other text, encoding.decodeExact bytes = some text →
      encoding.decodeExact other = some text → bytes = other) ∧
    ∀ bytes text, encoding.decodeExact bytes = some text → bytes.length ≤ 65535 →
      ∃ operand, Operand.text text encoding = .ok operand ∧
        operand.declaredLength.toNat = bytes.length ∧ operand.lengthEmbedded = true ∧
          operand.payload = .text text := by
  refine ⟨fun bytes text => decodeExact_eq_some_iff, ?_, ?_⟩
  · intro bytes other text hbytes hother
    have hsame := (encode_of_decodeExact hbytes).symm.trans (encode_of_decodeExact hother)
    exact Option.some.inj hsame
  · intro bytes text hdecode hshort
    have hencode := encode_of_decodeExact hdecode
    have hfits : bytes.length < 0x10000 := Nat.lt_succ_of_le hshort
    refine ⟨_, Operand.text_eq_ok_iff.mpr ⟨bytes, hencode, hfits, rfl⟩, ?_, rfl, rfl⟩
    rw [Nat.toUInt16_eq]
    exact UInt16.toNat_ofNat_of_lt' hfits

theorem encode_decodeExact_kana :
    (decodeExact shiftJis [0x82, 0xA0, 0x00] = some "あ\x00" ∧
      encode shiftJis "あ\x00" = some [0x82, 0xA0, 0x00] ∧
      (∀ other, decodeExact shiftJis other = some "あ\x00" → other = [0x82, 0xA0, 0x00]) ∧
      ∃ operand, Operand.text "あ\x00" shiftJis = .ok operand ∧
        operand.declaredLength.toNat = 3) ∧
    decodeExact utf8 [0xE3, 0x81, 0x82, 0x00] = some "あ\x00" ∧
    encode utf8 "あ\x00" = some [0xE3, 0x81, 0x82, 0x00] ∧
    (∀ other, decodeExact utf8 other = some "あ\x00" → other = [0xE3, 0x81, 0x82, 0x00]) ∧
    ∃ operand, Operand.text "あ\x00" utf8 = .ok operand ∧
      operand.declaredLength.toNat = 4 := by
  have hlaws : ∀ encoding bytes, decodeExact encoding bytes = some "あ\x00" →
      bytes.length ≤ 65535 → decodeExact encoding bytes = some "あ\x00" ∧
        encode encoding "あ\x00" = some bytes ∧
        (∀ other, decodeExact encoding other = some "あ\x00" → other = bytes) ∧
        ∃ operand, Operand.text "あ\x00" encoding = .ok operand ∧
          operand.declaredLength.toNat = bytes.length := by
    intro encoding bytes hdecode hshort
    obtain ⟨hiff, hinjective, hoperand⟩ := encode_decodeExact encoding
    obtain ⟨operand, htext, hlength, -⟩ := hoperand _ _ hdecode hshort
    exact ⟨hdecode, ((hiff _ _).mp hdecode).1, fun other h => hinjective _ _ _ h hdecode,
      operand, htext, hlength⟩
  have hwrite : shiftJis.charset.write 'あ' = some [0x82, 0xA0] := ShiftJis.write_kana
  have hencode : encode shiftJis "あ\x00" = some [0x82, 0xA0, 0x00] := by
    have hchars : "あ\x00".toList = ['あ', '\x00'] := rfl
    rw [encode, Charset.encode, hchars, List.mapM_cons, hwrite]
    rfl
  have hread : ∀ char ∈ "あ\x00".toList, char ∉ shiftJis.encodeOnly :=
    List.all_iff_forall_prop.mp (by decide)
  exact ⟨hlaws shiftJis _ (decodeExact_eq_some_iff.mpr ⟨hencode, hread⟩) (by decide),
    hlaws utf8 _ (decodeExact_eq_some_iff.mpr ⟨rfl, fun _ _ => List.not_mem_nil⟩) (by decide)⟩

end Encoding

end MajiroScript.Text
