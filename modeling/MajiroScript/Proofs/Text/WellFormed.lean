import MajiroScript.Proofs.Text.ReadBack

/-! The byte strings that are UTF-8, said by the ranges of their bytes.  They are
the ones that some text is written to. -/
namespace MajiroScript.Text.Utf8

/-- The bytes of one character.  The second byte tells the shortest form from
longer ones and keeps out surrogates and values above U+10FFFF. -/
inductive Sequence : Bytes → Prop where
  | single {byte : UInt8} (ascii : byte.toNat < 0x80) : Sequence [byte]
  | pair {lead second : UInt8} (leads : 0xC2 ≤ lead.toNat ∧ lead.toNat < 0xE0)
      (continues : IsContinuation second) : Sequence [lead, second]
  | triple {lead second third : UInt8} (leads : 0xE0 ≤ lead.toNat ∧ lead.toNat < 0xF0)
      (continues : IsContinuation second ∧ IsContinuation third)
      (shortest : lead.toNat = 0xE0 → 0xA0 ≤ second.toNat)
      (scalar : lead.toNat = 0xED → second.toNat ≤ 0x9F) : Sequence [lead, second, third]
  | quad {lead second third fourth : UInt8} (leads : 0xF0 ≤ lead.toNat ∧ lead.toNat < 0xF5)
      (continues : IsContinuation second ∧ IsContinuation third ∧ IsContinuation fourth)
      (shortest : lead.toNat = 0xF0 → 0x90 ≤ second.toNat)
      (scalar : lead.toNat = 0xF4 → second.toNat ≤ 0x8F) :
      Sequence [lead, second, third, fourth]

inductive WellFormed : Bytes → Prop where
  | nil : WellFormed []
  | append {code rest : Bytes} (first : Sequence code) (others : WellFormed rest) :
      WellFormed (code ++ rest)

theorem Sequence.exists_utf8EncodeChar {code : Bytes} (h : Sequence code) :
    ∃ char, String.utf8EncodeChar char = code := by
  cases h with
  | single ascii => exact ⟨_, utf8EncodeChar_single ascii⟩
  | pair leads continues => exact ⟨_, utf8EncodeChar_pair leads continues⟩
  | triple leads continues shortest scalar =>
      exact ⟨_, utf8EncodeChar_triple leads continues.1 continues.2 shortest scalar⟩
  | quad leads continues shortest scalar =>
      exact ⟨_, utf8EncodeChar_quad leads continues.1 continues.2.1 continues.2.2 shortest
        scalar⟩

theorem sequence_utf8EncodeChar (char : Char) : Sequence (String.utf8EncodeChar char) := by
  have hvalid : char.val.toNat < 0xD800 ∨
      0xDFFF < char.val.toNat ∧ char.val.toNat < 0x110000 := char.valid
  unfold String.utf8EncodeChar
  generalize char.val.toNat = value at hvalid
  dsimp only
  -- One case for each length; only the first two bytes have narrow ranges.
  split
  · have hbyte := toNat_ofNat (show value < 256 by omega)
    exact .single (by omega)
  · split
    · have hlead := toNat_ofNat (show value / 64 % 32 + 0xC0 < 256 by omega)
      exact .pair (by omega) (isContinuation_ofNat value)
    · split
      · have hlead := toNat_ofNat (show value / 4096 % 16 + 0xE0 < 256 by omega)
        have hsecond := toNat_ofNat (show value / 64 % 64 + 0x80 < 256 by omega)
        exact .triple (by omega) ⟨isContinuation_ofNat (value / 64), isContinuation_ofNat value⟩
          (by omega) (by omega)
      · have hlead := toNat_ofNat (show value / 262144 % 8 + 0xF0 < 256 by omega)
        have hsecond := toNat_ofNat (show value / 4096 % 64 + 0x80 < 256 by omega)
        exact .quad (by omega) ⟨isContinuation_ofNat (value / 4096),
          isContinuation_ofNat (value / 64), isContinuation_ofNat value⟩ (by omega) (by omega)

theorem wellFormed_of_write {chars : List Char} {codes : List Bytes}
    (h : chars.mapM charset.write = some codes) : WellFormed codes.flatten := by
  induction chars generalizing codes with
  | nil =>
      obtain rfl : [] = codes := by simpa using h
      exact .nil
  | cons char chars ih =>
      simp only [List.mapM_cons, charset, Option.bind_eq_bind, Option.bind_some,
        Option.bind_eq_some_iff, Option.pure_def, Option.some.injEq] at h
      obtain ⟨others, hothers, rfl⟩ := h
      exact .append (sequence_utf8EncodeChar char) (ih hothers)

theorem wellFormed_iff_exists_encode {bytes : Bytes} :
    WellFormed bytes ↔ ∃ text, charset.encode text = some bytes := by
  constructor
  · intro h
    induction h with
    | nil => exact ⟨"", rfl⟩
    | append first _ ih =>
        obtain ⟨char, rfl⟩ := first.exists_utf8EncodeChar
        obtain ⟨text, htext⟩ := ih
        refine ⟨String.ofList (char :: text.toList), ?_⟩
        rw [Charset.encode, String.toList_ofList]
        exact Charset.mapM_write_cons rfl htext
  · rintro ⟨text, htext⟩
    obtain ⟨codes, hcodes, rfl⟩ := Option.map_eq_some_iff.mp htext
    exact wellFormed_of_write hcodes

end MajiroScript.Text.Utf8
