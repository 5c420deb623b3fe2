import MajiroScript.Proofs.Text.Lossless

/-! Written text is read back.  A character that a charset only writes comes back
as the one that it stands in for, and every other character as itself. -/
namespace MajiroScript.Text

/-- The bytes of a character are read as the changed character, whatever stands
behind them. -/
def Charset.ReadsBack (charset : Charset) (change : Char → Char) : Prop :=
  ∀ {char : Char} {code : Bytes}, charset.write char = some code →
    ∃ byte more, code = byte :: more ∧
      ∀ rest, charset.read byte (more ++ rest) = some (change char, more.length)

namespace Charset

variable {charset : Charset} {change : Char → Char}

theorem decodeFrom_of_write (h : charset.ReadsBack change) {chars : List Char}
    {codes : List Bytes} (hcodes : chars.mapM charset.write = some codes) (before : List Char) :
    charset.decodeFrom before codes.flatten = some (before.reverse ++ chars.map change) := by
  induction chars generalizing codes before with
  | nil =>
      obtain rfl : [] = codes := by simpa using hcodes
      simp [decodeFrom]
  | cons char chars ih =>
      simp only [List.mapM_cons, Option.bind_eq_bind, Option.bind_eq_some_iff, Option.pure_def,
        Option.some.injEq] at hcodes
      obtain ⟨code, hcode, others, hothers, rfl⟩ := hcodes
      obtain ⟨byte, more, rfl, hread⟩ := h hcode
      rw [List.flatten_cons, List.cons_append, decodeFrom, hread]
      dsimp only
      rw [List.drop_left, ih hothers]
      simp

theorem decode_of_encode (h : charset.ReadsBack change) {text : String} {bytes : Bytes}
    (hencode : charset.encode text = some bytes) :
    charset.decode bytes = some (text.map change) := by
  obtain ⟨codes, hcodes, rfl⟩ := Option.map_eq_some_iff.mp hencode
  rw [decode, decodeFrom_of_write h hcodes]
  simp [← String.toList_map]

end Charset

/-- What the tables of a charset must agree on: ASCII stands for itself, and a
character that is written for another one is written for itself. -/
structure DoubleByte.Consistent (table : DoubleByte) : Prop where
  ascii : ∀ {char : Char}, char.toNat < 0x80 → table.single char.toNat.toUInt8 = some char
  standIn_standIn : ∀ char, table.standIn (table.standIn char) = table.standIn char

namespace DoubleByte

variable {table : DoubleByte}

theorem getElem?_insertIfNew (index : Index) (found char : Char) (code : Bytes) :
    (index.insertIfNew found code)[char]? =
      index[char]?.or (if found = char then some code else none) := by
  rw [Std.HashMap.getElem?_insertIfNew]
  by_cases hsame : found = char
  · subst hsame
    cases hentry : index[found]? with
    | none => simp [Std.HashMap.mem_iff_isSome_getElem?, hentry]
    | some entry => simp [Std.HashMap.mem_iff_isSome_getElem?, hentry]
  · simp [hsame]

-- The index that the codes are entered into stays a variable of the induction.
theorem getElem?_foldl_insertIfNew (codes : List Bytes) (index : Index) (char : Char) :
    (codes.foldl (fun index code =>
      match table.char? code with
      | some char => index.insertIfNew char code
      | none => index) index)[char]? =
      index[char]?.or (codes.find? (table.char? · = some char)) := by
  induction codes generalizing index with
  | nil => simp
  | cons code codes ih =>
      rw [List.foldl_cons, ih, List.find?_cons]
      cases hchar : table.char? code with
      | none => simp
      | some found =>
          simp only [getElem?_insertIfNew, Option.or_assoc, Option.some.injEq]
          by_cases hsame : found = char <;> simp [hsame]

/-- The first code of a character is the one that it is written with. -/
theorem getElem?_index (table : DoubleByte) (char : Char) :
    table.index[char]? = codes.find? (table.char? · = some char) := by
  calc table.index[char]? =
        (∅ : Index)[char]?.or (codes.find? (table.char? · = some char)) :=
          getElem?_foldl_insertIfNew codes ∅ char
    _ = codes.find? (table.char? · = some char) := by
          rw [Std.HashMap.getElem?_empty, Option.none_or]

def Sound (table : DoubleByte) (index : Index) : Prop :=
  ∀ char code, index[char]? = some code → table.char? code = some char

theorem sound_index (table : DoubleByte) : table.Sound table.index := by
  intro char code h
  rw [getElem?_index] at h
  simpa using List.find?_some h

theorem char?_of_code? (consistent : table.Consistent) {char : Char} {code : Bytes}
    (h : code? table.index char = some code) : table.char? code = some char := by
  unfold code? at h
  split at h
  · rename_i hascii
    cases h
    exact consistent.ascii hascii
  · exact table.sound_index char code h

theorem read_of_char? {char : Char} {code : Bytes} (hchar : table.char? code = some char)
    (hwrite : table.charset.write char = some code) :
    ∃ byte more, code = byte :: more ∧
      ∀ rest, table.charset.read byte (more ++ rest) = some (char, more.length) := by
  unfold char? at hchar
  split at hchar
  · rename_i byte
    refine ⟨byte, [], rfl, fun rest => ?_⟩
    simp only [charset] at hwrite ⊢
    simp [hchar, hwrite]
  · rename_i lead trail
    split at hchar
    · contradiction
    · rename_i hlead
      refine ⟨lead, [trail], rfl, fun rest => ?_⟩
      simp only [charset] at hwrite ⊢
      simp [Option.not_isSome_iff_eq_none.mp hlead, hchar, hwrite]
  · contradiction

theorem readsBack_charset (consistent : table.Consistent) :
    table.charset.ReadsBack table.standIn := by
  intro char code h
  have hstandIn : code? table.index (table.standIn char) = some code := h
  refine read_of_char? (char?_of_code? consistent hstandIn) ?_
  -- The stand-in is a character of its own and has the same code.
  change code? table.index (table.standIn (table.standIn char)) = some code
  rw [consistent.standIn_standIn, hstandIn]

end DoubleByte

theorem toNat_toUInt8_of_ascii {char : Char} (h : char.toNat < 0x80) :
    char.toNat.toUInt8.toNat = char.toNat := by
  rw [Nat.toUInt8_eq]
  exact UInt8.toNat_ofNat_of_lt' (Nat.lt_of_lt_of_le h (by decide))

theorem ShiftJis.consistent_table : ShiftJis.table.Consistent where
  ascii := by
    intro char h
    have hbyte := toNat_toUInt8_of_ascii h
    have hlow : char.toNat.toUInt8 ≤ 0x80 := by
      rw [UInt8.le_iff_toNat_le, hbyte]
      exact Nat.le_of_lt h
    change ShiftJis.single char.toNat.toUInt8 = some char
    rw [ShiftJis.single, if_pos hlow, hbyte, Char.ofNat_toNat]
  standIn_standIn := by
    intro char
    change ShiftJis.standIn (ShiftJis.standIn char) = ShiftJis.standIn char
    fun_cases ShiftJis.standIn char
    case case4 => simp [ShiftJis.standIn, *]
    all_goals rfl

theorem Gbk.consistent_table : Gbk.table.Consistent where
  ascii := by
    intro char h
    have hbyte := toNat_toUInt8_of_ascii h
    have hlow : char.toNat.toUInt8 ≤ 0x7F := by
      rw [UInt8.le_iff_toNat_le, hbyte]
      exact Nat.le_of_lt_succ h
    change Gbk.single char.toNat.toUInt8 = some char
    rw [Gbk.single, if_pos hlow, hbyte, Char.ofNat_toNat]
  standIn_standIn := by
    intro char
    change Gbk.standIn (Gbk.standIn char) = Gbk.standIn char
    fun_cases Gbk.standIn char
    case case19 => simp [Gbk.standIn, *]
    all_goals rfl

namespace Utf8

theorem continued_of_byte {value taken owed : Nat} {low high byte : UInt8} {rest : Bytes}
    (h : low.toNat ≤ byte.toNat ∧ byte.toNat ≤ high.toNat) :
    continued value taken low high (owed + 1) (byte :: rest) =
      continued (value * 64 + byte.toNat % 64) (taken + 1) 0x80 0xBF owed rest := by
  rw [continued, if_pos]
  exact ⟨UInt8.le_iff_toNat_le.mpr h.1, UInt8.le_iff_toNat_le.mpr h.2⟩

theorem continued_of_continuation {value taken owed : Nat} {byte : UInt8} {rest : Bytes}
    (h : IsContinuation byte) :
    continued value taken 0x80 0xBF (owed + 1) (byte :: rest) =
      continued (value * 64 + byte.toNat % 64) (taken + 1) 0x80 0xBF owed rest :=
  continued_of_byte h

theorem lead?_pair {byte : UInt8} (h : 0xC2 ≤ byte.toNat ∧ byte.toNat < 0xE0) :
    lead? byte = some ⟨byte.toNat % 32, 1, 0x80, 0xBF⟩ := by
  unfold lead?
  simp only [UInt8.lt_iff_toNat_lt, UInt8.reduceToNat]
  rw [if_neg (by omega), if_pos (by omega)]

theorem lead?_triple {byte : UInt8} (h : 0xE0 ≤ byte.toNat ∧ byte.toNat < 0xF0) :
    lead? byte = some ⟨byte.toNat % 16, 2, if byte = 0xE0 then 0xA0 else 0x80,
      if byte = 0xED then 0x9F else 0xBF⟩ := by
  unfold lead?
  simp only [UInt8.lt_iff_toNat_lt, ← UInt8.toNat_inj, UInt8.reduceToNat]
  grind

theorem lead?_quad {byte : UInt8} (h : 0xF0 ≤ byte.toNat ∧ byte.toNat < 0xF5) :
    lead? byte = some ⟨byte.toNat % 8, 3, if byte = 0xF0 then 0x90 else 0x80,
      if byte = 0xF4 then 0x8F else 0xBF⟩ := by
  unfold lead?
  simp only [UInt8.lt_iff_toNat_lt, ← UInt8.toNat_inj, UInt8.reduceToNat]
  grind

theorem front_of_lead {byte low high : UInt8} {bits more : Nat} (hbyte : 0x80 ≤ byte.toNat)
    (hlead : lead? byte = some ⟨bits, more, low, high⟩) (rest : Bytes) :
    front byte rest = continued bits 0 low high more rest := by
  rw [front, if_neg, hlead]
  rw [UInt8.lt_iff_toNat_lt]
  exact Nat.not_lt.mpr hbyte

theorem toNat_ofNat {value : Nat} (h : value < 256) : (UInt8.ofNat value).toNat = value :=
  UInt8.toNat_ofNat_of_lt' h

theorem isContinuation_ofNat (value : Nat) : IsContinuation (UInt8.ofNat (value % 64 + 0x80)) := by
  unfold IsContinuation
  rw [toNat_ofNat (by omega)]
  omega

theorem front_single {value : Nat} (h : value < 0x80) (rest : Bytes) :
    front (UInt8.ofNat value) rest = .scalar (Char.ofNat value) 0 := by
  have hbyte : (UInt8.ofNat value).toNat = value := toNat_ofNat (by omega)
  have hsmall : UInt8.ofNat value < 0x80 := by
    rwa [UInt8.lt_iff_toNat_lt, hbyte]
  rw [front, if_pos hsmall, hbyte]

theorem front_pair {value : Nat} (h : 0x80 ≤ value ∧ value < 0x800) (rest : Bytes) :
    front (UInt8.ofNat (value / 64 % 32 + 0xC0)) (UInt8.ofNat (value % 64 + 0x80) :: rest) =
      .scalar (Char.ofNat value) 1 := by
  have hlead := toNat_ofNat (show value / 64 % 32 + 0xC0 < 256 by omega)
  have hsecond := toNat_ofNat (show value % 64 + 0x80 < 256 by omega)
  rw [front_of_lead (by omega) (lead?_pair (by omega)),
    continued_of_continuation (isContinuation_ofNat value), hlead, hsecond, continued]
  congr 2
  omega

/-- The second byte tells the shortest form from longer ones and a surrogate
from other values. -/
theorem front_triple {value : Nat} (h : 0x800 ≤ value ∧ value < 0x10000)
    (surrogate : value < 0xD800 ∨ 0xDFFF < value) (rest : Bytes) :
    front (UInt8.ofNat (value / 4096 % 16 + 0xE0))
        (UInt8.ofNat (value / 64 % 64 + 0x80) :: UInt8.ofNat (value % 64 + 0x80) :: rest) =
      .scalar (Char.ofNat value) 2 := by
  have hlead := toNat_ofNat (show value / 4096 % 16 + 0xE0 < 256 by omega)
  have hsecond := toNat_ofNat (show value / 64 % 64 + 0x80 < 256 by omega)
  have hthird := toNat_ofNat (show value % 64 + 0x80 < 256 by omega)
  rw [front_of_lead (by omega) (lead?_triple (by omega)), continued_of_byte,
    continued_of_continuation (isContinuation_ofNat value), hlead, hsecond, hthird, continued]
  · congr 2
    omega
  · simp only [← UInt8.toNat_inj, apply_ite UInt8.toNat, UInt8.reduceToNat, hlead, hsecond]
    constructor
    all_goals split
    all_goals omega

theorem front_quad {value : Nat} (h : 0x10000 ≤ value ∧ value < 0x110000) (rest : Bytes) :
    front (UInt8.ofNat (value / 262144 % 8 + 0xF0))
        (UInt8.ofNat (value / 4096 % 64 + 0x80) :: UInt8.ofNat (value / 64 % 64 + 0x80) ::
          UInt8.ofNat (value % 64 + 0x80) :: rest) =
      .scalar (Char.ofNat value) 3 := by
  have hlead := toNat_ofNat (show value / 262144 % 8 + 0xF0 < 256 by omega)
  have hsecond := toNat_ofNat (show value / 4096 % 64 + 0x80 < 256 by omega)
  have hthird := toNat_ofNat (show value / 64 % 64 + 0x80 < 256 by omega)
  have hfourth := toNat_ofNat (show value % 64 + 0x80 < 256 by omega)
  rw [front_of_lead (by omega) (lead?_quad (by omega)), continued_of_byte,
    continued_of_continuation (isContinuation_ofNat (value / 64)),
    continued_of_continuation (isContinuation_ofNat value), hlead, hsecond, hthird, hfourth,
    continued]
  · congr 2
    omega
  · simp only [← UInt8.toNat_inj, apply_ite UInt8.toNat, UInt8.reduceToNat, hlead, hsecond]
    constructor
    all_goals split
    all_goals omega

theorem front_utf8EncodeChar (char : Char) :
    ∃ byte more, String.utf8EncodeChar char = byte :: more ∧
      ∀ rest, front byte (more ++ rest) = .scalar char more.length := by
  have hchar : Char.ofNat char.val.toNat = char := char.ofNat_toNat
  have hvalid : char.val.toNat < 0xD800 ∨
      0xDFFF < char.val.toNat ∧ char.val.toNat < 0x110000 := char.valid
  unfold String.utf8EncodeChar
  generalize char.val.toNat = value at hchar hvalid
  subst hchar
  dsimp only
  split
  · exact ⟨_, _, rfl, front_single (by omega)⟩
  · split
    · exact ⟨_, _, rfl, front_pair (by omega)⟩
    · split
      · exact ⟨_, _, rfl, front_triple (by omega) (by omega)⟩
      · exact ⟨_, _, rfl, front_quad (by omega)⟩

theorem readsBack_charset : charset.ReadsBack id := by
  intro char code h
  obtain rfl : String.utf8EncodeChar char = code := Option.some.inj h
  obtain ⟨byte, more, hcode, hfront⟩ := front_utf8EncodeChar char
  refine ⟨byte, more, hcode, fun rest => ?_⟩
  simp only [charset, hfront, id]

end Utf8

namespace Encoding

/-- The character that comes back for a written one. -/
def readBack : Encoding → Char → Char
  | shiftJis => ShiftJis.standIn
  | gbk => Gbk.standIn
  | utf8 => id

theorem readsBack_charset (encoding : Encoding) : encoding.charset.ReadsBack encoding.readBack := by
  cases encoding with
  | shiftJis => exact DoubleByte.readsBack_charset ShiftJis.consistent_table
  | gbk => exact DoubleByte.readsBack_charset Gbk.consistent_table
  | utf8 => exact Utf8.readsBack_charset

theorem decodeExact_of_encode {encoding : Encoding} {text : String} {bytes : Bytes}
    (h : encoding.encode text = some bytes) :
    encoding.decodeExact bytes = some (text.map encoding.readBack) :=
  Charset.decode_of_encode encoding.readsBack_charset h

theorem map_readBack_eq_iff {encoding : Encoding} {text : String} :
    text.map encoding.readBack = text ↔ ∀ char ∈ text.toList, encoding.readBack char = char := by
  have hsame : text.toList = text.toList.map id := (List.map_id _).symm
  rw [← String.toList_inj, String.toList_map]
  constructor
  · intro h
    exact List.map_inj_left.mp (h.trans hsame)
  · intro h
    exact (List.map_inj_left.mpr h).trans hsame.symm

end Encoding

end MajiroScript.Text
