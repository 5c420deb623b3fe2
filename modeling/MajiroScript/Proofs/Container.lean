import MajiroScript.Container
import MajiroScript.Proofs.Header
import MajiroScript.Proofs.Obfuscation
import MajiroScript.Proofs.Runs

/-! Taking images apart and putting them together again: a container gives its
own image back, and it can be given any script that reading could give. -/
namespace MajiroScript.Container

open Outcome

theorem plainWith_eq_ok_iff {container : Container} {script : Script} {plain : Bytes} :
    container.plainWith script = .ok plain ↔
      ∃ bytes, container.codec.encodeAll script.instructions = .ok bytes ∧
        container.headerBytes ++ (bytes ++ container.trailer) = plain := by
  unfold plainWith body
  simp only [bind_eq_ok_iff, pure_eq_ok_iff]
  constructor
  · rintro ⟨_, ⟨bytes, hbytes, rfl⟩, hplain⟩
    exact ⟨bytes, hbytes, hplain⟩
  · rintro ⟨bytes, hbytes, hplain⟩
    exact ⟨_, ⟨bytes, hbytes, rfl⟩, hplain⟩

theorem take_of_plainWith {container : Container} {script : Script} {plain : Bytes}
    (h : container.plainWith script = .ok plain) :
    plain.take container.headerLength = container.headerBytes := by
  obtain ⟨bytes, -, rfl⟩ := plainWith_eq_ok_iff.mp h
  exact List.take_left

theorem assemble_eq_ok_iff {container : Container} {key : Keystream} {script : Script}
    {image : Bytes} :
    container.assemble key script = .ok image ↔
      ∃ plain, container.plainWith script = .ok plain ∧
        Obfuscation.toggle container.headerLength key plain = image := by
  unfold assemble
  simp only [bind_eq_ok_iff, pure_eq_ok_iff]

/-- What makes a container the one that an image is taken apart into. -/
structure TakenFrom (container : Container) (codec : Codec) (key : Keystream)
    (image : Bytes) : Prop where
  codec_eq : container.codec = codec
  header_eq : Header.parse image = .ok container.header
  headerLength_eq : container.headerLength = container.header.length
  canonical : ∀ instruction ∈ container.script.instructions, codec.Canonical instruction
  trailer_short : container.trailer.length < 2
  plain_eq : container.toPlainImage = .ok (Obfuscation.toggle container.header.length key image)

theorem ofImage_eq_ok_iff {codec : Codec} {key : Keystream} {image : Bytes}
    {container : Container} :
    ofImage codec key image = .ok container ↔ container.TakenFrom codec key image := by
  unfold ofImage Opening.ofImage
  simp only [bind_eq_ok_iff, pure_eq_ok_iff, mapError_eq_ok_iff]
  constructor
  · rintro ⟨_, ⟨header, hheader, rfl⟩, instructions, hresult, rfl⟩
    dsimp only at hresult
    obtain ⟨hcanonical, hshort, bytes, hbytes, hbody⟩ := Codec.run_result_iff.mp ⟨hresult, rfl⟩
    have hlong := Header.length_le_of_parse hheader
    exact
      { codec_eq := rfl
        header_eq := hheader
        headerLength_eq := by
          unfold headerLength
          rw [List.length_take_of_le]
          rwa [Obfuscation.length_toggle]
        canonical := hcanonical
        trailer_short := hshort
        plain_eq := by
          refine plainWith_eq_ok_iff.mpr ⟨bytes, hbytes, ?_⟩
          rw [hbody]
          exact List.take_append_drop _ _ }
  · intro h
    obtain ⟨bytes, hbytes, hplain⟩ := plainWith_eq_ok_iff.mp h.plain_eq
    rw [h.codec_eq] at hbytes
    have hfront := take_of_plainWith h.plain_eq
    rw [h.headerLength_eq] at hfront
    have hbehind : (Obfuscation.toggle container.header.length key image).drop
        container.header.length = bytes ++ container.trailer := by
      rw [← hplain]
      exact List.drop_left' h.headerLength_eq
    have hrun := Codec.run_result_iff.mpr
      ⟨h.canonical, h.trailer_short, bytes, hbytes, hbehind.symm⟩
    refine ⟨_, ⟨container.header, h.header_eq, rfl⟩, container.script.instructions, hrun.1, ?_⟩
    dsimp only
    rw [hfront, hrun.2, ← h.codec_eq]

/-- A container gives the image back that it was taken from. -/
theorem toImage_of_ofImage {codec : Codec} {key : Keystream} {image : Bytes}
    {container : Container} (h : ofImage codec key image = .ok container) :
    container.toImage key = .ok image ∧ container.trailer.length ≤ 1 := by
  have htaken := ofImage_eq_ok_iff.mp h
  refine ⟨assemble_eq_ok_iff.mpr ⟨_, htaken.plain_eq, ?_⟩, Nat.le_of_lt_succ htaken.trailer_short⟩
  rw [htaken.headerLength_eq, Obfuscation.toggle_toggle]

theorem toImage_of_ofImage_text :
    ∃ container, ofImage ⟨.utf8, true⟩ ⟨#[0x5A]⟩ (Header.signature ++
        [0xAA, 0, 0, 0, 7, 0, 0, 0, 1, 0, 0, 0, 0, 0, 0, 0xBB, 1, 2, 3, 4, 0, 0, 0, 0,
          0x5B, 0x08, 0x02, 0x00, 0xC3, 0xA9, 0x2B]) = .ok container ∧
      container.trailer = [0x2B] ∧
      container.toImage ⟨#[0x5A]⟩ = .ok (Header.signature ++
        [0xAA, 0, 0, 0, 7, 0, 0, 0, 1, 0, 0, 0, 0, 0, 0, 0xBB, 1, 2, 3, 4, 0, 0, 0, 0,
          0x5B, 0x08, 0x02, 0x00, 0xC3, 0xA9, 0x2B]) := by
  have hopen : ofImage ⟨.utf8, true⟩ ⟨#[0x5A]⟩ (Header.signature ++
      [0xAA, 0, 0, 0, 7, 0, 0, 0, 1, 0, 0, 0, 0, 0, 0, 0xBB, 1, 2, 3, 4, 0, 0, 0, 0,
        0x5B, 0x08, 0x02, 0x00, 0xC3, 0xA9, 0x2B]) = .ok
          { header := ⟨7, 1, [⟨0x04030201, 0⟩]⟩
            headerBytes := Header.signature.modify 9 (· ^^^ 0x17) ++
              [0xAA, 0, 0, 0, 7, 0, 0, 0, 1, 0, 0, 0, 0, 0, 0, 0xBB, 1, 2, 3, 4, 0, 0, 0, 0]
            script := ⟨[⟨0x801, [⟨2, true, .text "é"⟩]⟩]⟩
            trailer := [0x2B]
            codec := ⟨.utf8, true⟩ } := by
    decide +kernel
  exact ⟨_, hopen, rfl, (toImage_of_ofImage hopen).1⟩

theorem TakenFrom.assemble {codec : Codec} {firstKey : Keystream} {image : Bytes}
    {container : Container} (h : container.TakenFrom codec firstKey image) {script : Script}
    (hcanonical : ∀ instruction ∈ script.instructions, codec.Canonical instruction)
    (key : Keystream) :
    ∃ patched, container.assemble key script = .ok patched ∧
      { container with script }.TakenFrom codec key patched := by
  obtain ⟨bytes, hbytes⟩ := Codec.exists_encodeAll_of_canonical hcanonical
  rw [← h.codec_eq] at hbytes
  obtain ⟨plain, hplain⟩ : ∃ plain, container.plainWith script = .ok plain :=
    ⟨_, plainWith_eq_ok_iff.mpr ⟨bytes, hbytes, rfl⟩⟩
  refine ⟨_, assemble_eq_ok_iff.mpr ⟨plain, hplain, rfl⟩, ?_⟩
  rw [h.headerLength_eq]
  -- The new image starts with the old header part, so its header is the old one.
  have hfront : plain.take container.header.length =
      (Obfuscation.toggle container.header.length firstKey image).take
        container.header.length := by
    rw [← h.headerLength_eq, take_of_plainWith hplain, h.headerLength_eq,
      ← take_of_plainWith h.plain_eq, h.headerLength_eq]
  have hsame : (Obfuscation.toggle container.header.length key plain).take
      container.header.length = image.take container.header.length := by
    rw [Obfuscation.take_toggle_congr key firstKey hfront, Obfuscation.toggle_toggle]
  exact
    { codec_eq := h.codec_eq
      header_eq := Header.parse_of_take_eq h.header_eq hsame
      headerLength_eq := h.headerLength_eq
      canonical := hcanonical
      trailer_short := h.trailer_short
      plain_eq := by rwa [Obfuscation.toggle_toggle] }

/-- A script comes back from an image with it exactly when its instructions are
canonical.  Header, trailer and codec stay as they were. -/
theorem ofImage_assemble {codec : Codec} {firstKey : Keystream} {image : Bytes}
    {container : Container} (h : ofImage codec firstKey image = .ok container)
    (key : Keystream) (script : Script) :
    ((∀ instruction ∈ script.instructions, codec.Canonical instruction) →
      ∃ patched, container.assemble key script = .ok patched ∧
        ofImage codec key patched = .ok { container with script }) ∧
    (∀ patched reopened, container.assemble key script = .ok patched →
      ofImage codec key patched = .ok reopened → reopened.script = script →
        ∀ instruction ∈ script.instructions, codec.Canonical instruction) := by
  constructor
  · intro hcanonical
    obtain ⟨patched, hpatched, htaken⟩ := (ofImage_eq_ok_iff.mp h).assemble hcanonical key
    exact ⟨patched, hpatched, ofImage_eq_ok_iff.mpr htaken⟩
  · intro patched reopened _ hreopened hscript
    rw [← hscript]
    exact (ofImage_eq_ok_iff.mp hreopened).canonical

theorem ofImage_assemble_text :
    ∃ container patched, ofImage ⟨.utf8, false⟩ ⟨#[0x5A]⟩
        (Header.signature ++ List.replicate 16 0 ++ [0x71, 0x08, 0xFF]) = .ok container ∧
      container.script = ⟨[⟨0x82B, []⟩]⟩ ∧
      container.assemble ⟨#[1, 2, 3]⟩ ⟨[⟨0x82B, []⟩, ⟨0x801, [⟨1, true, .raw [0xFF]⟩]⟩]⟩ =
        .ok patched ∧
      ofImage ⟨.utf8, false⟩ ⟨#[1, 2, 3]⟩ patched =
        .ok { container with
          script := ⟨[⟨0x82B, []⟩, ⟨0x801, [⟨1, true, .raw [0xFF]⟩]⟩]⟩ } := by
  have hopen : ofImage ⟨.utf8, false⟩ ⟨#[0x5A]⟩
      (Header.signature ++ List.replicate 16 0 ++ [0x71, 0x08, 0xFF]) = .ok
        { header := ⟨0, 0, []⟩
          headerBytes := Header.signature.modify 9 (· ^^^ 0x17) ++ List.replicate 16 0
          script := ⟨[⟨0x82B, []⟩]⟩
          trailer := [0xFF]
          codec := ⟨.utf8, false⟩ } := by
    decide +kernel
  have hcanonical : ∀ instruction ∈ ([⟨0x82B, []⟩, ⟨0x801, [⟨1, true, .raw [0xFF]⟩]⟩] :
      List Instruction), Codec.Canonical ⟨.utf8, false⟩ instruction := by
    decide +kernel
  obtain ⟨patched, hpatched, hreopened⟩ :=
    (ofImage_assemble hopen ⟨#[1, 2, 3]⟩ ⟨_⟩).1 hcanonical
  exact ⟨_, patched, hopen, rfl, hpatched, hreopened⟩

end MajiroScript.Container
