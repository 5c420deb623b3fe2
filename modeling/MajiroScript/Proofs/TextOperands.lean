import MajiroScript.Proofs.Runs
import MajiroScript.Proofs.Text.Correspondence

/-! Operands made from a text.  They can always be written, and they come back
with their text unless an encoding has no bytes of its own for a character. -/
namespace MajiroScript

open Text (Encoding)

namespace Codec

theorem canonical_text {codec : Codec} {opcode : Opcode} {declared : UInt16} {text : String}
    {bytes : Bytes} (hopcode : opcode.grammar? = some .text)
    (hlength : bytes.length = declared.toNat)
    (hbytes : codec.encoding.decodeExact bytes = some text) :
    codec.Canonical ⟨opcode, [⟨declared, true, .text text⟩]⟩ := by
  refine ⟨.text, hopcode, rfl, ?_⟩
  intro operand hmem
  obtain rfl := List.mem_singleton.mp hmem
  exact ⟨bytes, Encoding.encode_of_decodeExact hbytes, hlength, hbytes⟩

theorem encodeAll_text {codec : Codec} {opcode : Opcode} {declared : UInt16} {text : String}
    {bytes : Bytes} (hopcode : opcode.grammar? = some .text)
    (hlength : bytes.length = declared.toNat)
    (hbytes : codec.encoding.encode text = some bytes) :
    codec.encodeAll [⟨opcode, [⟨declared, true, .text text⟩]⟩] =
      .ok (Bytes.ofUInt16 opcode ++ (Bytes.ofUInt16 declared ++ bytes)) := by
  have hexpected : bytes.length =
      Operand.expectedLength ⟨declared, true, .text text⟩ opcode := by
    rw [Operand.expectedLength, hopcode]
    exact hlength
  have hfield : Operand.encode ⟨declared, true, .text text⟩ codec.encoding opcode =
      .ok (Bytes.ofUInt16 declared ++ bytes) :=
    Operand.encode_eq_ok_iff.mpr
      ⟨bytes, Operand.payloadBytes_text_eq_ok_iff.mpr ⟨hbytes, fun _ => hexpected⟩, rfl⟩
  have hrecord : codec.encode ⟨opcode, [⟨declared, true, .text text⟩]⟩ =
      .ok (Bytes.ofUInt16 opcode ++ (Bytes.ofUInt16 declared ++ bytes)) :=
    encode_eq_ok_iff.mpr ⟨[Bytes.ofUInt16 declared ++ bytes], by simp [hfield], by simp⟩
  exact encodeAll_cons_eq_ok_iff.mpr ⟨_, [], hrecord, encodeAll_nil codec, List.append_nil _⟩

/-- An operand made from a text is written, and what is read again has the
characters that come back.  So it is the same instruction exactly when the text
has none of the characters that are only written. -/
theorem decodeAll_encodeAll_text (codec : Codec) {opcode : Opcode} {text : String}
    {operand : Operand} (hopcode : opcode.grammar? = some .text)
    (hoperand : Operand.text text codec.encoding = .ok operand) :
    ∃ bytes, codec.encodeAll [⟨opcode, [operand]⟩] = .ok bytes ∧
      codec.decodeAll bytes = .ok [⟨opcode, [⟨operand.declaredLength, true,
        .text (text.map codec.encoding.readBack)⟩]⟩] ∧
      (codec.decodeAll bytes = .ok [⟨opcode, [operand]⟩] ↔
        ∀ char ∈ text.toList, char ∉ codec.encoding.encodeOnly) := by
  obtain ⟨bytes, hencode, hshort, rfl⟩ := Operand.text_eq_ok_iff.mp hoperand
  have hlength : bytes.length = bytes.length.toUInt16.toNat := by
    rw [Nat.toUInt16_eq]
    exact (UInt16.toNat_ofNat_of_lt' hshort).symm
  have hdecode := Encoding.decodeExact_of_encode hencode
  have hread : codec.decodeAll
      (Bytes.ofUInt16 opcode ++ (Bytes.ofUInt16 bytes.length.toUInt16 ++ bytes)) =
        .ok [⟨opcode, [⟨bytes.length.toUInt16, true,
          .text (text.map codec.encoding.readBack)⟩]⟩] := by
    refine decodeAll_eq_ok_iff.mpr ⟨?_, _, [], ?_, Nat.two_pos, List.append_nil _⟩
    · intro instruction hmem
      obtain rfl := List.mem_singleton.mp hmem
      exact canonical_text hopcode hlength hdecode
    · exact encodeAll_text hopcode hlength (Encoding.encode_of_decodeExact hdecode)
  refine ⟨_, encodeAll_text hopcode hlength hencode, hread, ?_⟩
  rw [hread]
  simp only [Except.ok.injEq, List.cons.injEq, Instruction.mk.injEq, Operand.mk.injEq,
    Payload.text.injEq, and_true, true_and]
  exact Encoding.map_readBack_eq_self_iff

/-- A price with the yen sign, which is written like the backslash. -/
theorem decodeAll_encodeAll_price :
    Opcode.grammar? 0x840 = some .text ∧
    Operand.text "¥100" .shiftJis = .ok ⟨4, true, .text "¥100"⟩ ∧
    ∃ bytes, encodeAll ⟨.shiftJis, true⟩ [⟨0x840, [⟨4, true, .text "¥100"⟩]⟩] = .ok bytes ∧
      decodeAll ⟨.shiftJis, true⟩ bytes = .ok [⟨0x840, [⟨4, true, .text "\\100"⟩]⟩] ∧
      decodeAll ⟨.shiftJis, true⟩ bytes ≠ .ok [⟨0x840, [⟨4, true, .text "¥100"⟩]⟩] := by
  have hopcode : Opcode.grammar? 0x840 = some .text := by decide
  have hoperand : Operand.text "¥100" .shiftJis = .ok ⟨4, true, .text "¥100"⟩ := by
    decide +kernel
  have hback : "¥100".map (Encoding.readBack .shiftJis) = "\\100" := by decide +kernel
  obtain ⟨bytes, hbytes, hread, hsame⟩ :=
    decodeAll_encodeAll_text ⟨.shiftJis, true⟩ hopcode hoperand
  rw [hback] at hread
  refine ⟨hopcode, hoperand, bytes, hbytes, hread, ?_⟩
  intro h
  exact hsame.mp h '¥' (by decide +kernel) (by decide)

theorem decodeAll_yen_ne :
    Opcode.grammar? 0x801 = some .text ∧
    Operand.text "¥" .shiftJis = .ok ⟨1, true, .text "¥"⟩ ∧
    encodeAll ⟨.shiftJis, false⟩ [⟨0x801, [⟨1, true, .text "¥"⟩]⟩] = .ok [1, 8, 1, 0, 0x5C] ∧
    decodeAll ⟨.shiftJis, false⟩ [1, 8, 1, 0, 0x5C] ≠
      .ok [⟨0x801, [⟨1, true, .text "¥"⟩]⟩] := by
  decide +kernel

end Codec

end MajiroScript
