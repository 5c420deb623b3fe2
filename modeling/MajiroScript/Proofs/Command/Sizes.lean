import MajiroScript.Proofs.Command.Output
import MajiroScript.Proofs.Layout

/-! Where the bytes of an opened image go.  Its length is that of the header, of
one record for each instruction and of the trailer, so no length that is taken
off the length of the image is greater than it. -/
namespace MajiroScript

open Outcome

theorem Codec.encodeAll_eq_ok_iff {codec : Codec} {instructions : List Instruction}
    {bytes : Bytes} :
    codec.encodeAll instructions = .ok bytes ↔
      ∃ records, instructions.mapM codec.encode = .ok records ∧ records.flatten = bytes := by
  simp only [encodeAll, bind_eq_ok_iff, pure_eq_ok_iff]

namespace Container

/-- An image as long as the parts of its container, with a record for each
instruction. -/
structure Accounts (container : Container) (image : Bytes) (records : List Bytes) : Prop where
  headerLength_eq : container.headerLength = container.header.length
  length_eq : container.header.length = Header.lengthFor container.header.entryCount.toNat
  lengthBelow?_eq :
    Header.lengthBelow? (2 ^ 64) container.header.entryCount = some container.headerLength
  headerLength_le : container.headerLength ≤ image.length
  trailer_short : container.trailer.length ≤ 1
  records_eq : container.script.instructions.mapM container.codec.encode = .ok records
  total_eq : image.length =
    container.headerLength + (records.map List.length).sum + container.trailer.length

def bodyLength (container : Container) (records : List Bytes) : Nat :=
  (records.map List.length).sum + container.trailer.length

variable {codec : Codec} {key : Keystream} {image : Bytes} {container : Container}
  {records : List Bytes}

theorem TakenFrom.exists_accounts (h : container.TakenFrom codec key image) :
    ∃ records, container.Accounts image records := by
  have hfields := Header.fields_of_parse h.header_eq
  have hlength : container.headerLength =
      Header.lengthFor container.header.entryCount.toNat :=
    h.headerLength_eq.trans hfields.length_eq
  obtain ⟨bytes, hbytes, hplain⟩ := plainWith_eq_ok_iff.mp h.plain_eq
  obtain ⟨records, hrecords, rfl⟩ := Codec.encodeAll_eq_ok_iff.mp hbytes
  -- The parts one behind the other are the revealed image, which is as long as the hidden one.
  have htotal := congrArg List.length hplain
  rw [List.length_append, List.length_append, List.length_flatten, Obfuscation.length_toggle,
    ← Nat.add_assoc] at htotal
  exact ⟨records,
    { headerLength_eq := h.headerLength_eq
      length_eq := hfields.length_eq
      lengthBelow?_eq := by rw [Header.lengthBelow?_eq, hlength]
      headerLength_le := h.headerLength_eq ▸ hfields.length_le
      trailer_short := Nat.le_of_lt_succ h.trailer_short
      records_eq := hrecords
      total_eq := htotal.symm }⟩

theorem Accounts.sub_eq (h : container.Accounts image records) :
    image.length - container.headerLength = container.bodyLength records := by
  have htotal := h.total_eq
  unfold bodyLength
  omega

theorem Accounts.opening (h : container.Accounts image records)
    (hopen : ofImage codec key image = .ok container) :
    ∃ opening, Opening.ofImage codec key image = .ok opening ∧
      opening.header.length ≤ opening.plain.length ∧
      opening.plain.length - opening.header.length = container.bodyLength records ∧
      (opening.plain.drop opening.header.length).length = container.bodyLength records := by
  have hparse := (ofImage_eq_ok_iff.mp hopen).header_eq
  have hsub := h.sub_eq
  have hinside := h.headerLength_le
  rw [h.headerLength_eq] at hsub hinside
  refine ⟨_, by rw [Opening.ofImage, hparse]; rfl, ?_, ?_, ?_⟩
  · rwa [Obfuscation.length_toggle]
  · rwa [Obfuscation.length_toggle]
  · rwa [List.length_drop, Obfuscation.length_toggle]

theorem Accounts.shown (h : container.Accounts image records) :
    container.headerLength ≤ (container.inputStats image).size ∧
      (∃ members, Command.headerJson container (container.inputStats image) = .object members ∧
        ("body_len", .number (container.bodyLength records)) ∈ members) ∧
      s!"Body length:                  {container.bodyLength records}" ∈
        Command.headerLines container (container.inputStats image) := by
  have hsub : (container.inputStats image).size - container.headerLength =
      container.bodyLength records := h.sub_eq
  refine ⟨h.headerLength_le, ⟨_, rfl, ?_⟩, ?_⟩
  · rw [hsub]
    exact List.mem_cons_self
  · simp [Command.headerLines, hsub]

/-- Every byte of an opened image is counted once, and no length that is taken
off another one is greater: not when the image is opened, and not when its header
is shown. -/
theorem ofImage_accounts (h : ofImage codec key image = .ok container) :
    ∃ records, container.Accounts image records ∧
      (∃ opening, Opening.ofImage codec key image = .ok opening ∧
        opening.header.length ≤ opening.plain.length ∧
        opening.plain.length - opening.header.length = container.bodyLength records ∧
        (opening.plain.drop opening.header.length).length = container.bodyLength records) ∧
      ∀ directory path, directory.read path = .ok image →
        ∃ stats, loadWithStats codec key directory path = .ok (container, stats) ∧
          container.headerLength ≤ stats.size ∧
          (∃ members, Command.headerJson container stats = .object members ∧
            ("body_len", .number (container.bodyLength records)) ∈ members) ∧
          s!"Body length:                  {container.bodyLength records}" ∈
            Command.headerLines container stats := by
  obtain ⟨records, haccounts⟩ := (ofImage_eq_ok_iff.mp h).exists_accounts
  refine ⟨records, haccounts, haccounts.opening h, ?_⟩
  intro directory path hread
  exact ⟨_, loadWithStats_eq_ok_iff.mpr ⟨image, hread, h, rfl⟩, haccounts.shown⟩

/-- A file of 47 bytes: 40 for a header with an entry, 6 for a text and one that
is left over. -/
theorem ofImage_accounts_text :
    ∃ image container records stats,
      ofImage ⟨.utf8, true⟩ ⟨#[0x5A]⟩ image = .ok container ∧
      container.Accounts image records ∧ image.length = 47 ∧ container.headerLength = 40 ∧
      (records.map List.length).sum = 6 ∧ container.trailer.length = 1 ∧
      loadWithStats ⟨.utf8, true⟩ ⟨#[0x5A]⟩ ⟨[(["script.mjo"], .file image)]⟩ "script.mjo" =
        .ok (container, stats) ∧
      "Body length:                  7" ∈ Command.headerLines container stats := by
  let image : Bytes := Header.signature ++
    [0xAA, 0, 0, 0, 7, 0, 0, 0, 1, 0, 0, 0, 0, 0, 0, 0xBB, 1, 2, 3, 4, 0, 0, 0, 0,
      0x5B, 0x08, 0x02, 0x00, 0xC3, 0xA9, 0x2B]
  have hopen : ofImage ⟨.utf8, true⟩ ⟨#[0x5A]⟩ image = .ok
      (ofParts ⟨.utf8, true⟩ ⟨#[0x5A]⟩ image [⟨0x801, [⟨2, true, .text "é"⟩]⟩]) := by
    decide +kernel
  have hread : Directory.read ⟨[(["script.mjo"], .file image)]⟩ "script.mjo" = .ok image := by
    decide +kernel
  obtain ⟨records, haccounts, -, hshown⟩ := ofImage_accounts hopen
  obtain ⟨stats, hload, -, -, hline⟩ := hshown _ _ hread
  have hheader : (ofParts ⟨.utf8, true⟩ ⟨#[0x5A]⟩ image
      [⟨0x801, [⟨2, true, .text "é"⟩]⟩]).headerLength = 40 := by decide +kernel
  have htrailer : (ofParts ⟨.utf8, true⟩ ⟨#[0x5A]⟩ image
      [⟨0x801, [⟨2, true, .text "é"⟩]⟩]).trailer.length = 1 := by decide +kernel
  have hlength : image.length = 47 := rfl
  have htotal := haccounts.total_eq
  rw [hheader, htrailer, hlength] at htotal
  have hrecords : (records.map List.length).sum = 6 := by omega
  rw [bodyLength, hrecords, htrailer] at hline
  exact ⟨image, _, records, stats, hopen, haccounts, hlength, hheader, hrecords, htrailer, hload,
    hline⟩

end Container

end MajiroScript
