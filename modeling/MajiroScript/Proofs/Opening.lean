import MajiroScript.Proofs.Calls
import MajiroScript.Proofs.Container

/-! What opening an image gives, for every image: the first check that fails, or
a container whose parts stand at known places of the image.  Whether the header
is good, and what it says, depends on the image alone. -/
namespace MajiroScript

namespace Header

/-- Where the body of an image starts: behind the fixed part of the header and
eight bytes for each entry that it announces. -/
def bodyStart (image : Bytes) : Nat :=
  32 + 8 * (image.uint32At 0x18).toNat

def ofPart (bytes : Bytes) : Header where
  lineCount := bytes.uint32At 0x14
  entryCount := bytes.uint32At 0x18
  entries := (List.range (bytes.uint32At 0x18).toNat).map fun index =>
    ⟨bytes.uint32At (32 + 8 * index), bytes.uint32At (36 + 8 * index)⟩

theorem lengthFor_eq_bodyStart (image : Bytes) :
    lengthFor (image.uint32At entryCountOffset).toNat = bodyStart image :=
  congrArg (32 + ·) (Nat.mul_comm _ _)

theorem uint32At_take_bodyStart {image : Bytes} {offset : Nat} (h : offset + 4 ≤ 32) :
    Bytes.uint32At (image.take (bodyStart image)) offset = image.uint32At offset :=
  Bytes.uint32At_take (Nat.le_trans h (Nat.le_add_right _ _))

theorem length_ofPart_take (image : Bytes) :
    (ofPart (image.take (bodyStart image))).length = bodyStart image := by
  unfold length ofPart
  rw [List.length_map, List.length_range, uint32At_take_bodyStart (by decide)]
  exact lengthFor_eq_bodyStart image

theorem ofPart_take {image : Bytes} (h : bodyStart image ≤ image.length) :
    ofPart (image.take (bodyStart image)) =
      { lineCount := image.uint32At lineCountOffset
        entryCount := image.uint32At entryCountOffset
        entries := readEntries ((image.take (bodyStart image)).drop fixedLength) } := by
  have hcount : ((image.take (bodyStart image)).drop fixedLength).length / entryLength =
      (image.uint32At 0x18).toNat := by
    rw [List.length_drop, List.length_take, Nat.min_eq_left h]
    unfold bodyStart fixedLength entryLength
    omega
  have hplace (index : Nat) : fixedLength + (8 * index + 4) = 36 + 8 * index := by
    unfold fixedLength
    omega
  rw [readEntries_eq, hcount, ofPart, uint32At_take_bodyStart (by decide),
    uint32At_take_bodyStart (by decide)]
  simp only [Bytes.uint32At_drop, hplace]
  rfl

theorem parse_eq (image : Bytes) :
    parse image =
      if image.take 16 ≠ signature then .error (.signatureMismatch (image.take 16))
      else if image.length < 32 then .error (.truncated 32 image.length)
      else if image.length < bodyStart image then
        .error (.truncated (bodyStart image) image.length)
      else .ok (ofPart (image.take (bodyStart image))) := by
  by_cases hsignature : image.take 16 = signature
  · rw [parse_eq_of_signature hsignature, if_neg (not_not.mpr hsignature),
      lengthFor_eq_bodyStart]
    change (if image.length < 32 then _ else _) = _
    by_cases hlong : image.length < bodyStart image
    · rw [if_pos hlong, if_pos hlong]
      rfl
    · rw [if_neg hlong, if_neg hlong, ofPart_take (Nat.not_lt.mp hlong)]
      rfl
  · rw [parse_eq_of_not_signature hsignature, if_pos hsignature]
    rfl

theorem eq_ofPart_of_parse {image : Bytes} {header : Header} (h : parse image = .ok header) :
    header = ofPart (image.take (bodyStart image)) := by
  rw [parse_eq] at h
  split at h
  · contradiction
  · split at h
    · contradiction
    · split at h
      · contradiction
      · exact (Except.ok.inj h).symm

end Header

namespace OpenError

theorem ofHeader_injective {reason other : HeaderError} (h : ofHeader reason = ofHeader other) :
    reason = other := by
  cases reason <;> cases other <;> cases h <;> rfl

theorem undecodable_ne_ofHeader (bodyOffset : Nat) (reason : DecodeError) (other : HeaderError) :
    undecodable bodyOffset reason ≠ ofHeader other := by
  cases other <;> exact OpenError.noConfusion

end OpenError

namespace Container

def plainBody (key : Keystream) (image : Bytes) : Bytes :=
  (image.drop (Header.bodyStart image)).mapIdx fun index byte => byte ^^^ key.keyAt index

def ofParts (codec : Codec) (key : Keystream) (image : Bytes) (instructions : List Instruction) :
    Container where
  header := .ofPart (image.take (Header.bodyStart image))
  headerBytes := (image.take (Header.bodyStart image)).modify 9 (· ^^^ 0x17)
  script := ⟨instructions⟩
  trailer := (plainBody key image).drop (codec.run (plainBody key image)).last.position
  codec

theorem drop_toggle {key : Keystream} {image : Bytes}
    (h : Header.bodyStart image ≤ image.length) :
    (Obfuscation.toggle (Header.bodyStart image) key image).drop (Header.bodyStart image) =
      plainBody key image := by
  -- The marker lies in the header, so that the key alone hides the body.
  have hmarker : Obfuscation.markerOffset < Header.bodyStart image :=
    Nat.lt_of_lt_of_le (by decide) (Nat.le_add_right _ _)
  unfold Obfuscation.toggle
  dsimp only
  rw [List.drop_left', List.drop_modify_of_lt _ _ _ _ hmarker]
  · rfl
  · rw [List.length_take, List.length_modify, Nat.min_eq_left h]

theorem remainder_run (codec : Codec) (body : Bytes) :
    (codec.run body).last.remainder = body.drop (codec.run body).last.position :=
  (Reader.reaches_run (.ofBody codec body)).of_ofBytes.2

theorem ofImage_eq_of_parse {codec : Codec} {key : Keystream} {image : Bytes}
    (h : Header.parse image = .ok (.ofPart (image.take (Header.bodyStart image)))) :
    ofImage codec key image =
      match codec.decodeAll (plainBody key image) with
      | .error reason => .error (.undecodable (Header.bodyStart image) reason)
      | .ok instructions => .ok (ofParts codec key image instructions) := by
  have hlong := Header.length_le_of_parse h
  rw [Header.length_ofPart_take] at hlong
  unfold ofImage Opening.ofImage
  rw [h]
  change (do
    let instructions ← (codec.run _).result.mapError _
    pure _ : Except OpenError Container) = _
  rw [Header.length_ofPart_take, drop_toggle hlong, Obfuscation.take_toggle, remainder_run]
  unfold Codec.decodeAll
  cases (codec.run (plainBody key image)).result with
  | error reason => rfl
  | ok instructions => rfl

theorem ofImage_of_parse_error {codec : Codec} {key : Keystream} {image : Bytes}
    {reason : HeaderError} (h : Header.parse image = .error reason) :
    ofImage codec key image = .error (.ofHeader reason) := by
  unfold ofImage Opening.ofImage
  rw [h]
  rfl

theorem ofImage_eq_header_error_iff {codec : Codec} {key : Keystream} {image : Bytes}
    {reason : HeaderError} :
    ofImage codec key image = .error (.ofHeader reason) ↔ Header.parse image = .error reason := by
  constructor
  · intro h
    cases hparse : Header.parse image with
    | error found =>
        rw [ofImage_of_parse_error hparse] at h
        exact congrArg _ (OpenError.ofHeader_injective (Except.error.inj h))
    | ok header =>
        cases Header.eq_ofPart_of_parse hparse
        rw [ofImage_eq_of_parse hparse] at h
        split at h
        · exact (OpenError.undecodable_ne_ofHeader _ _ _ (Except.error.inj h)).elim
        · contradiction
  · exact ofImage_of_parse_error

theorem trailer_ofParts {codec : Codec} {key : Keystream} {image : Bytes}
    {instructions : List Instruction}
    (h : codec.decodeAll (plainBody key image) = .ok instructions) :
    (ofParts codec key image instructions).trailer.length < 2 ∧
      (ofParts codec key image instructions).body ⟨instructions⟩ = .ok (plainBody key image) := by
  obtain ⟨-, hshort, bytes, hbytes, hbody⟩ := Codec.run_result_iff.mp ⟨h, rfl⟩
  rw [remainder_run] at hshort hbody
  refine ⟨hshort, ?_⟩
  unfold body
  rw [show (ofParts codec key image instructions).codec = codec from rfl, hbytes]
  exact congrArg Except.ok hbody

/-- What opening an image gives is decided by the image up to its body, and then
by the body with the key taken off.  Of a body that can be read, at most one byte
is left over, and the rest is what its instructions are written as. -/
theorem ofImage_classification (codec : Codec) (key : Keystream) (image : Bytes) :
    (ofImage codec key image =
      if image.take 16 ≠ Header.signature then
        .error (.formatMismatch (.signatureMismatch (image.take 16)))
      else if image.length < 32 then
        .error (.malformed (.truncated 32 image.length))
      else if image.length < Header.bodyStart image then
        .error (.malformed (.truncated (Header.bodyStart image) image.length))
      else
        match codec.decodeAll (plainBody key image) with
        | .error reason => .error (.undecodable (Header.bodyStart image) reason)
        | .ok instructions => .ok (ofParts codec key image instructions)) ∧
    (∀ instructions, codec.decodeAll (plainBody key image) = .ok instructions →
      (ofParts codec key image instructions).trailer.length < 2 ∧
        (ofParts codec key image instructions).body ⟨instructions⟩ = .ok (plainBody key image)) ∧
    ∀ otherCodec otherKey,
      (∀ reason, ofImage otherCodec otherKey image = .error (.ofHeader reason) ↔
        ofImage codec key image = .error (.ofHeader reason)) ∧
      ∀ container other, ofImage codec key image = .ok container →
        ofImage otherCodec otherKey image = .ok other → other.header = container.header := by
  refine ⟨?_, fun instructions => trailer_ofParts, ?_⟩
  · -- The four checks are made in this order, and all but the last by the header.
    have hparse := Header.parse_eq image
    by_cases hsignature : image.take 16 ≠ Header.signature
    · rw [if_pos hsignature] at hparse ⊢
      exact ofImage_of_parse_error hparse
    · rw [if_neg hsignature] at hparse ⊢
      by_cases hfixed : image.length < 32
      · rw [if_pos hfixed] at hparse ⊢
        exact ofImage_of_parse_error hparse
      · rw [if_neg hfixed] at hparse ⊢
        by_cases htable : image.length < Header.bodyStart image
        · rw [if_pos htable] at hparse ⊢
          exact ofImage_of_parse_error hparse
        · rw [if_neg htable] at hparse ⊢
          exact ofImage_eq_of_parse hparse
  · intro otherCodec otherKey
    refine ⟨fun reason => ofImage_eq_header_error_iff.trans ofImage_eq_header_error_iff.symm, ?_⟩
    intro container other hcontainer hother
    have hheader := (ofImage_eq_ok_iff.mp hcontainer).header_eq
    exact Except.ok.inj ((ofImage_eq_ok_iff.mp hother).header_eq.symm.trans hheader)

theorem ofImage_classification_entry :
    ∃ image container other,
      Codec.decodeAll ⟨.utf8, true⟩ (plainBody ⟨#[0x5A]⟩ image) = .ok [⟨0x82B, []⟩] ∧
      (ofParts ⟨.utf8, true⟩ ⟨#[0x5A]⟩ image [⟨0x82B, []⟩]).trailer.length < 2 ∧
      ofImage ⟨.utf8, true⟩ ⟨#[0x5A]⟩ image = .ok container ∧
      ofImage ⟨.gbk, false⟩ ⟨#[0x5E]⟩ image = .ok other ∧
      container.header.entries = [⟨0x04030201, 5⟩] ∧
      other.script ≠ container.script ∧ other.header = container.header := by
  let image : Bytes := Header.signature ++
    [0xAA, 0, 0, 0, 7, 0, 0, 0, 1, 0, 0, 0, 0, 0, 0, 0xBB, 1, 2, 3, 4, 5, 0, 0, 0,
      0x71, 0x08, 0xFF]
  have hdecode : Codec.decodeAll ⟨.utf8, true⟩ (plainBody ⟨#[0x5A]⟩ image) =
      .ok [⟨0x82B, []⟩] := by
    decide +kernel
  have hopen : ofImage ⟨.utf8, true⟩ ⟨#[0x5A]⟩ image =
      .ok (ofParts ⟨.utf8, true⟩ ⟨#[0x5A]⟩ image [⟨0x82B, []⟩]) := by
    decide +kernel
  have hother : ofImage ⟨.gbk, false⟩ ⟨#[0x5E]⟩ image =
      .ok (ofParts ⟨.gbk, false⟩ ⟨#[0x5E]⟩ image [⟨0x82F, []⟩]) := by
    decide +kernel
  obtain ⟨-, htrailer, hindependent⟩ := ofImage_classification ⟨.utf8, true⟩ ⟨#[0x5A]⟩ image
  exact ⟨image, _, _, hdecode, (htrailer _ hdecode).1, hopen, hother, by decide, by decide,
    (hindependent _ _).2 _ _ hopen hother⟩

end Container

end MajiroScript
