import MajiroScript.Proofs.Keystream.Tokens
import MajiroScript.Proofs.Outcome
import MajiroScript.Proofs.Text.Lossy
import MajiroScript.Workspace

/-! Keys in files, said of the bytes of the file.  Bytes that are no UTF-8 belong
to the piece they stand in, so the pieces of the file are the tokens of its
text. -/
namespace MajiroScript.Keystream

open Text.Utf8

def isSeparatorByte (byte : UInt8) : Bool :=
  byte = 0x20 || byte = 0x0D || byte = 0x0A

def rawPieces (content : Bytes) : List Bytes :=
  (content.splitOnP isSeparatorByte).filter fun piece => !piece.isEmpty

theorem isSeparator_charOf (byte : UInt8) : isSeparator (charOf byte) = isSeparatorByte byte := by
  have hbytes : ∀ code < 256, isSeparator (charOf (UInt8.ofNat code)) =
      isSeparatorByte (UInt8.ofNat code) := by
    decide +kernel
  have hbyte := hbytes byte.toNat byte.toNat_lt
  rwa [UInt8.ofNat_toNat] at hbyte

theorem toNat_lt_of_isSeparator {char : Char} (h : isSeparator char) : char.toNat < 0x80 := by
  simp only [isSeparator, Bool.or_eq_true, decide_eq_true_eq] at h
  obtain (rfl | rfl) | rfl := h
  · decide
  · decide
  · decide

theorem toNat_lt_of_isSeparatorByte {byte : UInt8} (h : isSeparatorByte byte) :
    byte.toNat < 0x80 := by
  rw [← toNat_charOf]
  exact toNat_lt_of_isSeparator ((isSeparator_charOf byte).trans h)

theorem isSeparator_of_mem_decodeLossy {run : Bytes}
    (hrun : ∀ byte ∈ run, isSeparatorByte byte = false) :
    ∀ char ∈ (decodeLossy run).toList, isSeparator char = false := by
  intro char hchar
  by_contra hseparator
  rw [Bool.not_eq_false] at hseparator
  obtain ⟨byte, hbyte, rfl⟩ :=
    exists_byte_of_ascii hchar (toNat_lt_of_isSeparator hseparator)
  rw [isSeparator_charOf, hrun byte hbyte] at hseparator
  contradiction

/-- Splitting the decoded text is decoding what the bytes are split into. -/
theorem splitOnP_decodeLossy (content : Bytes) :
    (decodeLossy content).toList.splitOnP isSeparator =
      (content.splitOnP isSeparatorByte).map fun piece => (decodeLossy piece).toList := by
  induction content using cut_induction isSeparatorByte with
  | run content hcontent =>
      rw [List.splitOnP_eq_singleton hcontent,
        List.splitOnP_eq_singleton (isSeparator_of_mem_decodeLossy hcontent)]
      rfl
  | cut run separator content hrun hseparator ih =>
      have hchar : isSeparator (charOf separator) := (isSeparator_charOf separator).trans hseparator
      rw [List.splitOnP_append_cons_of_forall_mem hrun separator hseparator,
        toList_decodeLossy_append (toNat_lt_of_isSeparatorByte hseparator),
        List.splitOnP_append_cons_of_forall_mem (isSeparator_of_mem_decodeLossy hrun) _ hchar, ih,
        List.map_cons]

theorem tokens_decodeLossy (content : Bytes) :
    tokens (decodeLossy content) =
      (rawPieces content).map fun piece => (decodeLossy piece).toList := by
  rw [tokens, pieces_eq_filter_splitOnP, splitOnP_decodeLossy, List.filter_map, rawPieces]
  simp only [Function.comp_def, isEmpty_toList_decodeLossy]

theorem readable_decodeLossy (piece : Bytes) :
    Readable (decodeLossy piece).toList = Readable (piece.map charOf) := by
  funext value
  apply propext
  constructor
  · intro h
    rwa [toList_decodeLossy_of_ascii (ascii_decodeLossy_iff.mp h.ascii)] at h
  · intro h
    rwa [toList_decodeLossy_of_ascii]
    intro byte hbyte
    have hchar := h.ascii (charOf byte) (List.mem_map_of_mem hbyte)
    rwa [toNat_charOf] at hchar

/-- The bytes of a key are those that the pieces of a file give.  Each byte of a
piece is taken for the character with its code. -/
def GivenBy (content : Bytes) (key : Keystream) : Prop :=
  List.Forall₂ (fun piece => LowByte (Readable (piece.map charOf))) (rawPieces content) key.toBytes

theorem givenBy_ofFile (content : Bytes) : GivenBy content (ofFile content) := by
  rw [GivenBy, ofFile, toBytes_parse, tokens_decodeLossy, List.map_map,
    List.forall₂_map_right_iff, List.forall₂_same]
  intro piece hpiece
  have hsome : (decodeLossy piece).toList ≠ [] := by
    have hraw := (List.mem_filter.mp hpiece).2
    rw [← isEmpty_toList_decodeLossy] at hraw
    simpa using hraw
  rw [← readable_decodeLossy]
  exact lowByte_tokenByte hsome

theorem GivenBy.unique {content : Bytes} {key other : Keystream} (h : GivenBy content key)
    (hother : GivenBy content other) : key = other := by
  have hlowByte : Relator.RightUnique
      fun piece : Bytes => LowByte (Readable (piece.map charOf)) :=
    fun _ _ _ hbyte hagain => hbyte.unique Readable.unique hagain
  exact toBytes_inj.mp (List.right_unique_forall₂' hlowByte h hother)

/-- A key can be loaded from every file that can be read.  It is the one whose
bytes are given by the pieces of the file, one byte each and in their order, and
the separators of the decoded text are those of the file. -/
theorem load_of_read {directory : Directory} {path : String} {content : Bytes}
    (h : directory.read path = .ok content) :
    (∃ key, load directory path = .ok key ∧ ∀ other, GivenBy content other ↔ other = key) ∧
      (decodeLossy content).toList.splitOnP isSeparator =
        (content.splitOnP isSeparatorByte).map fun piece => (decodeLossy piece).toList := by
  refine ⟨⟨ofFile content, ?_, fun other => ⟨?_, ?_⟩⟩, splitOnP_decodeLossy content⟩
  · rw [load, Directory.load, h]
    rfl
  · intro hother
    exact hother.unique (givenBy_ofFile content)
  · rintro rfl
    exact givenBy_ofFile content

/-- A character that is cut off before a blank, a number with a sign, a surrogate
before a line end, and a digit. -/
theorem load_of_read_ill_formed :
    let content : Bytes := [0xE3, 0x81, 0x20, 0x2B, 0x31, 0x46, 0x0A, 0xED, 0xA0, 0x80, 0x0D, 0x34]
    let directory : Directory := ⟨[(["key.txt"], .file content)]⟩
    directory.read "key.txt" = .ok content ∧
      load directory "key.txt" = .ok (ofBytes [0, 0x1F, 0, 4]) ∧
      GivenBy content (ofBytes [0, 0x1F, 0, 4]) := by
  intro content directory
  have hread : directory.read "key.txt" = .ok content := by
    decide +kernel
  have hkey : load directory "key.txt" = .ok (ofBytes [0, 0x1F, 0, 4]) := by
    decide +kernel
  obtain ⟨⟨key, hload, hgiven⟩, -⟩ := load_of_read hread
  obtain rfl := Except.ok.inj (hkey.symm.trans hload)
  exact ⟨hread, hkey, (hgiven _).mpr rfl⟩

end MajiroScript.Keystream
