import MajiroScript.Header

/-! What a header says depends on the header part of an image alone, and that
part is as long as the header says. -/
namespace MajiroScript

theorem Bytes.uint32At_take {bytes : Bytes} {offset count : Nat} (h : offset + 4 ≤ count) :
    uint32At (bytes.take count) offset = uint32At bytes offset := by
  unfold uint32At
  rw [List.drop_take, List.take_take, Nat.min_eq_left (by omega)]

theorem Bytes.uint32At_drop (bytes : Bytes) (count offset : Nat) :
    uint32At (bytes.drop count) offset = uint32At bytes (count + offset) := by
  rw [uint32At, uint32At, List.drop_drop]

namespace Header

theorem length_readEntries (bytes : Bytes) :
    (readEntries bytes).length = bytes.length / entryLength := by
  unfold entryLength
  fun_induction readEntries bytes with
  | case1 h0 h1 h2 h3 o0 o1 o2 o3 rest ih =>
      simp only [List.length_cons, ih]
      omega
  | case2 bytes hshort =>
      -- Eight bytes at the front would be a record.
      have hlength : bytes.length < 8 := by
        rcases bytes with _ | ⟨h0, _ | ⟨h1, _ | ⟨h2, _ | ⟨h3, _ | ⟨o0, _ | ⟨o1, _ | ⟨o2,
          _ | ⟨o3, rest⟩⟩⟩⟩⟩⟩⟩⟩
        any_goals exact (hshort _ _ _ _ _ _ _ _ _ rfl).elim
        all_goals simp
      simp only [List.length_nil]
      omega

theorem length_readEntries_table {image : Bytes} {count : Nat}
    (h : lengthFor count ≤ image.length) :
    (readEntries ((image.take (lengthFor count)).drop fixedLength)).length = count := by
  rw [length_readEntries, List.length_drop, List.length_take, Nat.min_eq_left h]
  unfold lengthFor fixedLength entryLength
  omega

theorem readEntries_eq (bytes : Bytes) :
    readEntries bytes = (List.range (bytes.length / entryLength)).map fun index =>
      ⟨bytes.uint32At (8 * index), bytes.uint32At (8 * index + 4)⟩ := by
  rw [← length_readEntries]
  fun_induction readEntries bytes with
  | case1 h0 h1 h2 h3 o0 o1 o2 o3 rest ih =>
      rw [List.length_cons, List.range_succ_eq_map, List.map_cons, List.map_map]
      -- The eight bytes of the first record are passed over one by one.
      exact congrArg (List.cons _) ih
  | case2 bytes hshort => rfl

theorem fixedLength_le_length (header : Header) : fixedLength ≤ header.length :=
  Nat.le_add_right _ _

structure Describes (header : Header) (bytes : Bytes) : Prop where
  length_eq : bytes.length = header.length
  signature_eq : bytes.take signature.length = signature
  lineCount_eq : bytes.uint32At lineCountOffset = header.lineCount
  entryCount_eq : bytes.uint32At entryCountOffset = header.entryCount
  entries_eq : readEntries (bytes.drop fixedLength) = header.entries
  length_entries : header.entries.length = header.entryCount.toNat

theorem Describes.length_le {image : Bytes} {header : Header}
    (h : header.Describes (image.take header.length)) : header.length ≤ image.length := by
  have hlength := h.length_eq
  rw [List.length_take] at hlength
  omega

theorem parse_eq_of_signature {image : Bytes} (h : image.take signature.length = signature) :
    parse image =
      if image.length < fixedLength then .error (.truncated fixedLength image.length)
      else if image.length < lengthFor (image.uint32At entryCountOffset).toNat then
        .error (.truncated (lengthFor (image.uint32At entryCountOffset).toNat) image.length)
      else
        .ok
          { lineCount := image.uint32At lineCountOffset
            entryCount := image.uint32At entryCountOffset
            entries := readEntries ((image.take
              (lengthFor (image.uint32At entryCountOffset).toNat)).drop fixedLength) } := by
  unfold parse checkSignature
  rw [if_pos h]
  rfl

theorem parse_eq_of_not_signature {image : Bytes} (h : image.take signature.length ≠ signature) :
    parse image = .error (.signatureMismatch (image.take signature.length)) := by
  unfold parse checkSignature
  rw [if_neg h]
  rfl

theorem signature_of_parse {image : Bytes} {header : Header} (h : parse image = .ok header) :
    image.take signature.length = signature := by
  by_cases hsignature : image.take signature.length = signature
  · exact hsignature
  · rw [parse_eq_of_not_signature hsignature] at h
    contradiction

/-- The header part of an image is all that a good header depends on. -/
theorem parse_eq_ok_iff {image : Bytes} {header : Header} :
    parse image = .ok header ↔ header.Describes (image.take header.length) := by
  have hfixed := fixedLength_le_length header
  have htake : (image.take header.length).take signature.length = image.take signature.length := by
    rw [List.take_take, Nat.min_eq_left (Nat.le_trans (by decide) hfixed)]
  have hlines : Bytes.uint32At (image.take header.length) lineCountOffset =
      image.uint32At lineCountOffset :=
    Bytes.uint32At_take (Nat.le_trans (by decide) hfixed)
  have hcount : Bytes.uint32At (image.take header.length) entryCountOffset =
      image.uint32At entryCountOffset :=
    Bytes.uint32At_take (Nat.le_trans (by decide) hfixed)
  constructor
  · intro h
    by_cases hsignature : image.take signature.length = signature
    · rw [parse_eq_of_signature hsignature] at h
      split at h
      · contradiction
      · split at h
        · contradiction
        · rename_i hlong
          injection h with h
          have htable := length_readEntries_table (Nat.not_lt.mp hlong)
          have hentries := congrArg Header.entries h
          have hlength : lengthFor (image.uint32At entryCountOffset).toNat = header.length := by
            rw [Header.length, ← hentries, htable]
          rw [hlength] at hlong hentries
          exact
            { length_eq := List.length_take_of_le (Nat.not_lt.mp hlong)
              signature_eq := htake.trans hsignature
              lineCount_eq := hlines.trans (congrArg Header.lineCount h)
              entryCount_eq := hcount.trans (congrArg Header.entryCount h)
              entries_eq := hentries
              length_entries := by rw [← h]; exact htable }
    · rw [parse_eq_of_not_signature hsignature] at h
      contradiction
  · intro h
    have hlong := h.length_le
    have hneeded : lengthFor (image.uint32At entryCountOffset).toNat = header.length := by
      rw [← hcount, h.entryCount_eq, ← h.length_entries]
      rfl
    rw [parse_eq_of_signature (htake.symm.trans h.signature_eq), hneeded,
      if_neg (Nat.not_lt.mpr (Nat.le_trans hfixed hlong)), if_neg (Nat.not_lt.mpr hlong),
      h.entries_eq, ← hlines, ← hcount, h.lineCount_eq, h.entryCount_eq]

theorem length_le_of_parse {image : Bytes} {header : Header} (h : parse image = .ok header) :
    header.length ≤ image.length :=
  (parse_eq_ok_iff.mp h).length_le

theorem parse_of_take_eq {image other : Bytes} {header : Header}
    (h : parse image = .ok header)
    (hsame : other.take header.length = image.take header.length) :
    parse other = .ok header := by
  rw [parse_eq_ok_iff, hsame]
  exact parse_eq_ok_iff.mp h

end Header

end MajiroScript
