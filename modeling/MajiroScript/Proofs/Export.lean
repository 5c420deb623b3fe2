import MajiroScript.Proofs.Opening

/-! Images that are written from an opened one: hidden with another key, or
revealed.  Header and body are those of the opened image, byte for byte, and a
revealed image is never taken for a hidden one. -/
namespace MajiroScript.Container

variable {codec : Codec} {key : Keystream} {image : Bytes} {container : Container}

theorem TakenFrom.toPlainImage (h : container.TakenFrom codec key image) :
    container.toPlainImage = .ok (Obfuscation.toggle container.headerLength key image) := by
  rw [h.headerLength_eq]
  exact h.plain_eq

theorem TakenFrom.toImage (h : container.TakenFrom codec key image) (other : Keystream) :
    container.toImage other = .ok (Obfuscation.toggle container.headerLength other
      (Obfuscation.toggle container.headerLength key image)) :=
  assemble_eq_ok_iff.mpr ⟨_, h.toPlainImage, rfl⟩

/-- A container can be written with any key.  The header of the new image is the
one of the old image, both keys are combined with the body, and the new key
opens it as the old key opened the old image. -/
theorem toImage_otherKey (h : ofImage codec key image = .ok container) (other : Keystream) :
    ∃ rekeyed, container.toImage other = .ok rekeyed ∧
      rekeyed.length = image.length ∧
      rekeyed.take container.headerLength = image.take container.headerLength ∧
      (∀ index, rekeyed[container.headerLength + index]? =
        image[container.headerLength + index]?.map fun byte =>
          byte ^^^ key.keyAt index ^^^ other.keyAt index) ∧
      ofImage codec other rekeyed = .ok container := by
  have htaken := ofImage_eq_ok_iff.mp h
  have himage := htaken.toImage other
  refine ⟨_, himage, ?_, ?_, ?_, ?_⟩
  · rw [Obfuscation.length_toggle, Obfuscation.length_toggle]
  · exact Obfuscation.take_toggle_toggle ..
  · intro index
    rw [Obfuscation.getElem?_toggle_toggle, Nat.add_sub_cancel_left]
    simp only [if_pos (Nat.le_add_right container.headerLength index)]
  · obtain ⟨rekeyed, hrekeyed, hagain⟩ := htaken.assemble htaken.canonical other
    obtain rfl := Except.ok.inj (hrekeyed.symm.trans himage)
    exact ofImage_eq_ok_iff.mpr hagain

theorem toImage_otherKey_short :
    ∃ container, ofImage ⟨.utf8, true⟩ ⟨#[0x5A]⟩
        (Header.signature ++ List.replicate 16 0 ++ [0x71, 0x08, 0xFF]) = .ok container ∧
      container.toImage ⟨#[1, 2, 3]⟩ =
        .ok (Header.signature ++ List.replicate 16 0 ++ [0x2A, 0x0A, 0xFC]) ∧
      ofImage ⟨.utf8, true⟩ ⟨#[1, 2, 3]⟩
        (Header.signature ++ List.replicate 16 0 ++ [0x2A, 0x0A, 0xFC]) = .ok container := by
  have hopen : ofImage ⟨.utf8, true⟩ ⟨#[0x5A]⟩
      (Header.signature ++ List.replicate 16 0 ++ [0x71, 0x08, 0xFF]) = .ok
        { header := ⟨0, 0, []⟩
          headerBytes := Header.signature.set 9 0x4F ++ List.replicate 16 0
          script := ⟨[⟨0x82B, []⟩]⟩
          trailer := [0xFF]
          codec := ⟨.utf8, true⟩ } := by
    decide +kernel
  obtain ⟨rekeyed, himage, -, -, -, hagain⟩ := toImage_otherKey hopen ⟨#[1, 2, 3]⟩
  have hrekeyed : rekeyed =
      Header.signature ++ List.replicate 16 0 ++ [0x2A, 0x0A, 0xFC] := by
    apply Except.ok.inj
    rw [← himage]
    decide +kernel
  rw [hrekeyed] at himage hagain
  exact ⟨_, hopen, himage, hagain⟩

theorem TakenFrom.parse_plain (h : container.TakenFrom codec key image) :
    Header.parse (Obfuscation.toggle container.headerLength key image) =
      .error (.signatureMismatch (Header.signature.set 9 0x4F)) := by
  -- With the marker changed, the signature is another one.
  have hsignature := Header.signature_of_parse h.header_eq
  have hinside : Header.signature.length ≤ container.headerLength := by
    rw [h.headerLength_eq]
    exact Nat.le_trans (by decide) (Header.fixedLength_le_length container.header)
  have hfront : (Obfuscation.toggle container.headerLength key image).take
      Header.signature.length = Header.signature.set 9 0x4F := by
    rw [Obfuscation.take_toggle_of_le hinside, hsignature]
    decide
  have hother : (Obfuscation.toggle container.headerLength key image).take
      Header.signature.length ≠ Header.signature := by
    rw [hfront]
    decide
  rw [Header.parse_eq_of_not_signature hother, hfront]

/-- A container can be written in the clear.  Hiding what is written gives the
image back, and nothing opens it as it is. -/
theorem toPlainImage_of_ofImage (h : ofImage codec key image = .ok container) :
    ∃ plain, container.toPlainImage = .ok plain ∧
      plain = Obfuscation.toggle container.headerLength key image ∧
      Obfuscation.toggle container.headerLength key plain = image ∧
      ∀ otherCodec otherKey, ofImage otherCodec otherKey plain =
        .error (.formatMismatch (.signatureMismatch (Header.signature.set 9 0x4F))) := by
  have htaken := ofImage_eq_ok_iff.mp h
  refine ⟨_, htaken.toPlainImage, rfl, Obfuscation.toggle_toggle .., ?_⟩
  intro otherCodec otherKey
  exact ofImage_of_parse_error htaken.parse_plain

theorem toPlainImage_of_ofImage_entry :
    ∃ container, ofImage ⟨.utf8, true⟩ ⟨#[0x5A]⟩ (Header.signature ++
        [0xAA, 0, 0, 0, 7, 0, 0, 0, 1, 0, 0, 0, 0, 0, 0, 0xBB, 1, 2, 3, 4, 5, 0, 0, 0,
          0x71, 0x08, 0xFF]) = .ok container ∧
      container.toPlainImage = .ok (Header.signature.set 9 0x4F ++
        [0xAA, 0, 0, 0, 7, 0, 0, 0, 1, 0, 0, 0, 0, 0, 0, 0xBB, 1, 2, 3, 4, 5, 0, 0, 0,
          0x2B, 0x08, 0xFF]) ∧
      ofImage ⟨.gbk, false⟩ ⟨#[]⟩ (Header.signature.set 9 0x4F ++
        [0xAA, 0, 0, 0, 7, 0, 0, 0, 1, 0, 0, 0, 0, 0, 0, 0xBB, 1, 2, 3, 4, 5, 0, 0, 0,
          0x2B, 0x08, 0xFF]) =
        .error (.formatMismatch (.signatureMismatch (Header.signature.set 9 0x4F))) := by
  have hopen : ofImage ⟨.utf8, true⟩ ⟨#[0x5A]⟩ (Header.signature ++
      [0xAA, 0, 0, 0, 7, 0, 0, 0, 1, 0, 0, 0, 0, 0, 0, 0xBB, 1, 2, 3, 4, 5, 0, 0, 0,
        0x71, 0x08, 0xFF]) = .ok
          { header := ⟨7, 1, [⟨0x04030201, 5⟩]⟩
            headerBytes := Header.signature.set 9 0x4F ++
              [0xAA, 0, 0, 0, 7, 0, 0, 0, 1, 0, 0, 0, 0, 0, 0, 0xBB, 1, 2, 3, 4, 5, 0, 0, 0]
            script := ⟨[⟨0x82B, []⟩]⟩
            trailer := [0xFF]
            codec := ⟨.utf8, true⟩ } := by
    decide +kernel
  obtain ⟨plain, hplain, -, -, hclosed⟩ := toPlainImage_of_ofImage hopen
  have hrevealed : plain = Header.signature.set 9 0x4F ++
      [0xAA, 0, 0, 0, 7, 0, 0, 0, 1, 0, 0, 0, 0, 0, 0, 0xBB, 1, 2, 3, 4, 5, 0, 0, 0,
        0x2B, 0x08, 0xFF] := by
    apply Except.ok.inj
    rw [← hplain]
    decide +kernel
  rw [hrevealed] at hplain hclosed
  exact ⟨_, hopen, hplain, hclosed ⟨.gbk, false⟩ ⟨#[]⟩⟩

end MajiroScript.Container
