import MajiroScript.Proofs.Opening

/-! Headers and the images they stand in.  An image has a header exactly when it
is long enough for what it announces, every header can be laid out, and counting
its length with addresses of 64 bits never leaves their range. -/
namespace MajiroScript

namespace Bytes

theorem toUInt32_toNatLE_ofUInt32 (value : UInt32) :
    (ofUInt32 value).toNatLE.toUInt32 = value := by
  have hfits : value.toNat < 256 ^ 4 := value.toNat_lt
  rw [ofUInt32, toNatLE_ofNatLE, Nat.mod_eq_of_lt hfits, Nat.toUInt32_eq, UInt32.ofNat_toNat]

theorem uint32At_of_drop {bytes rest : Bytes} {offset : Nat} {value : UInt32}
    (h : bytes.drop offset = ofUInt32 value ++ rest) : bytes.uint32At offset = value := by
  rw [uint32At, h, List.take_left' (length_ofUInt32 value), toUInt32_toNatLE_ofUInt32]

end Bytes

def Entry.record (entry : Entry) : Bytes :=
  .ofUInt32 entry.hash ++ .ofUInt32 entry.offset

namespace Header

theorem readEntries_record (entry : Entry) (rest : Bytes) :
    readEntries (entry.record ++ rest) = entry :: readEntries rest := by
  change (⟨(Bytes.ofUInt32 entry.hash).toNatLE.toUInt32,
    (Bytes.ofUInt32 entry.offset).toNatLE.toUInt32⟩ :: readEntries rest : List Entry) = _
  rw [Bytes.toUInt32_toNatLE_ofUInt32, Bytes.toUInt32_toNatLE_ofUInt32]

theorem readEntries_flatMap_record (entries : List Entry) :
    readEntries (entries.flatMap Entry.record) = entries := by
  induction entries with
  | nil => rfl
  | cons entry entries ih => rw [List.flatMap_cons, readEntries_record, ih]

theorem length_flatMap_record (entries : List Entry) :
    (entries.flatMap Entry.record).length = entries.length * entryLength := by
  have hrecord (entry : Entry) : entry.record.length = entryLength := by
    rw [Entry.record, List.length_append, Bytes.length_ofUInt32, Bytes.length_ofUInt32]
    rfl
  simp only [List.length_flatMap, hrecord, List.map_const', List.sum_replicate_nat]

/-- A header part.  The format gives no meaning to the bytes before the counts
and behind them. -/
def layout (lineCount : UInt32) (entries : List Entry) (gap reserved : Vector UInt8 4) : Bytes :=
  signature ++ (gap.toList ++ (.ofUInt32 lineCount ++ (.ofUInt32 entries.length.toUInt32 ++
    (reserved.toList ++ entries.flatMap Entry.record))))

section

variable (lineCount : UInt32) (entries : List Entry) (gap reserved : Vector UInt8 4)

theorem length_layout :
    (layout lineCount entries gap reserved).length = lengthFor entries.length := by
  simp only [layout, List.length_append, length_flatMap_record, Bytes.length_ofUInt32,
    Vector.length_toList, lengthFor, fixedLength]
  rw [show signature.length = 16 from rfl]
  omega

theorem drop_lineCount :
    (layout lineCount entries gap reserved).drop lineCountOffset =
      Bytes.ofUInt32 lineCount ++ (Bytes.ofUInt32 entries.length.toUInt32 ++
        (reserved.toList ++ entries.flatMap Entry.record)) := by
  have hgap : (signature ++ gap.toList).length = lineCountOffset := by
    rw [List.length_append, Vector.length_toList]
    rfl
  rw [layout, ← List.append_assoc, List.drop_left' hgap]

theorem drop_entryCount :
    (layout lineCount entries gap reserved).drop entryCountOffset =
      Bytes.ofUInt32 entries.length.toUInt32 ++
        (reserved.toList ++ entries.flatMap Entry.record) :=
  Bytes.drop_behind (drop_lineCount lineCount entries gap reserved)

theorem drop_fixedLength :
    (layout lineCount entries gap reserved).drop fixedLength = entries.flatMap Entry.record := by
  have hbehind := Bytes.drop_behind
    (Bytes.drop_behind (drop_entryCount lineCount entries gap reserved))
  rwa [Vector.length_toList] at hbehind

theorem describes_layout (h : entries.length < 2 ^ 32) :
    Describes ⟨lineCount, entries.length.toUInt32, entries⟩
      (layout lineCount entries gap reserved) where
  length_eq := length_layout lineCount entries gap reserved
  signature_eq := List.take_left' rfl
  lineCount_eq := Bytes.uint32At_of_drop (drop_lineCount lineCount entries gap reserved)
  entryCount_eq := Bytes.uint32At_of_drop (drop_entryCount lineCount entries gap reserved)
  entries_eq := by rw [drop_fixedLength, readEntries_flatMap_record]
  length_entries := by
    rw [Nat.toUInt32_eq]
    exact (UInt32.toNat_ofNat_of_lt' h).symm

theorem parse_layout (body : Bytes) (h : entries.length < 2 ^ 32) :
    parse (layout lineCount entries gap reserved ++ body) =
      .ok ⟨lineCount, entries.length.toUInt32, entries⟩ := by
  have hfront : (layout lineCount entries gap reserved ++ body).take (lengthFor entries.length) =
      layout lineCount entries gap reserved :=
    List.take_left' (length_layout lineCount entries gap reserved)
  rw [parse_eq_ok_iff, length, hfront]
  exact describes_layout lineCount entries gap reserved h

end

theorem length_of_parse {image : Bytes} {header : Header} (h : parse image = .ok header) :
    header.length = bodyStart image := by
  rw [eq_ofPart_of_parse h, length_ofPart_take]

theorem exists_parse_iff {image : Bytes} :
    (∃ header, parse image = .ok header) ↔
      image.take 16 = signature ∧ 32 ≤ image.length ∧ bodyStart image ≤ image.length := by
  constructor
  · rintro ⟨header, h⟩
    have hlong := length_le_of_parse h
    have hfixed := fixedLength_le_length header
    rw [length_of_parse h] at hlong hfixed
    exact ⟨signature_of_parse h, Nat.le_trans hfixed hlong, hlong⟩
  · rintro ⟨hsignature, hfixed, htable⟩
    rw [parse_eq, if_neg (not_not.mpr hsignature), if_neg (Nat.not_lt.mpr hfixed),
      if_neg (Nat.not_lt.mpr htable)]
    exact ⟨_, rfl⟩

structure Fields (header : Header) (image : Bytes) : Prop where
  lineCount_eq : header.lineCount = image.uint32At 0x14
  entryCount_eq : header.entryCount = image.uint32At 0x18
  length_entries : header.entries.length = header.entryCount.toNat
  getElem?_entries : ∀ index < header.entries.length, header.entries[index]? =
    some ⟨image.uint32At (32 + 8 * index), image.uint32At (36 + 8 * index)⟩
  length_eq : header.length = lengthFor header.entryCount.toNat
  length_le : header.length ≤ image.length

theorem fields_of_parse {image : Bytes} {header : Header} (h : parse image = .ok header) :
    header.Fields image := by
  have hpart := eq_ofPart_of_parse h
  have hentries := (parse_eq_ok_iff.mp h).length_entries
  have hplace : Bytes.uint32At (image.take (bodyStart image)) 0x18 = image.uint32At 0x18 :=
    uint32At_take_bodyStart (by decide)
  have hcount : header.entryCount = image.uint32At 0x18 := by
    rw [hpart]
    exact hplace
  exact
    { lineCount_eq := by
        rw [hpart]
        exact uint32At_take_bodyStart (by decide)
      entryCount_eq := hcount
      length_entries := hentries
      getElem?_entries := by
        intro index hindex
        rw [hentries, hcount] at hindex
        -- A record of the table lies in the header part.
        have hinside : 36 + 8 * index + 4 ≤ bodyStart image := by
          unfold bodyStart
          omega
        rw [hpart, ofPart, hplace, List.getElem?_map, List.getElem?_range hindex,
          Option.map_some, Bytes.uint32At_take (by omega), Bytes.uint32At_take hinside]
      length_eq := congrArg lengthFor hentries
      length_le := length_le_of_parse h }

def address? (bound value : Nat) : Option Nat :=
  if value < bound then some value else none

/-- The length of a header on a machine whose addresses are below the bound, if
no step of counting it leaves their range. -/
def lengthBelow? (bound : Nat) (entryCount : UInt32) : Option Nat := do
  let count ← address? bound entryCount.toNat
  let table ← address? bound (count * entryLength)
  address? bound (table + fixedLength)

theorem lengthBelow?_eq (entryCount : UInt32) :
    lengthBelow? (2 ^ 64) entryCount = some (lengthFor entryCount.toNat) := by
  have hcount := entryCount.toNat_lt
  have htable : entryCount.toNat * entryLength + fixedLength < 2 ^ 64 := by
    unfold entryLength fixedLength
    omega
  -- The last sum is the greatest of the three numbers.
  simp only [lengthBelow?, address?]
  rw [if_pos (by omega), Option.bind_eq_bind, Option.bind_some, if_pos (by omega),
    Option.bind_some, if_pos htable, Nat.add_comm]
  rfl

-- With 32 bits the longest tables are out of reach.
example : lengthBelow? (2 ^ 32) 0x1FFFFFFC = none := by decide

inductive BoundedError where
  | header (reason : HeaderError)
  | entryCountOverflow (entryCount : UInt32)
  deriving DecidableEq, Repr

def parseBelow (bound : Nat) (image : Bytes) : Except BoundedError Header := do
  (checkSignature image).mapError .header
  let available := image.length
  if available < fixedLength then
    throw (.header (.truncated fixedLength available))
  let entryCount := image.uint32At entryCountOffset
  let some needed := lengthBelow? bound entryCount | throw (.entryCountOverflow entryCount)
  if available < needed then
    throw (.header (.truncated needed available))
  pure
    { lineCount := image.uint32At lineCountOffset
      entryCount
      entries := readEntries ((image.take needed).drop fixedLength) }

theorem parseBelow_eq (image : Bytes) :
    parseBelow (2 ^ 64) image = (parse image).mapError .header := by
  by_cases hsignature : image.take signature.length = signature
  · rw [parse_eq_of_signature hsignature]
    unfold parseBelow checkSignature
    rw [if_pos hsignature]
    simp only [lengthBelow?_eq]
    change (if _ then _ else _) = _
    split
    · rfl
    · split <;> rfl
  · rw [parse_eq_of_not_signature hsignature]
    unfold parseBelow checkSignature
    rw [if_neg hsignature]
    rfl

/-- Which images have a header and what it says, in both directions: by the
places of its fields, and by laying it out.  Counting its length never leaves the
range of 64 bits. -/
theorem parse_exact :
    (∀ image, (∃ header, parse image = .ok header) ↔
      image.take 16 = signature ∧ 32 ≤ image.length ∧
        32 + 8 * (image.uint32At 0x18).toNat ≤ image.length) ∧
    (∀ image header, parse image = .ok header → header.Fields image) ∧
    (∀ lineCount entries gap reserved body, entries.length < 2 ^ 32 →
      parse (layout lineCount entries gap reserved ++ body) =
        .ok ⟨lineCount, entries.length.toUInt32, entries⟩) ∧
    (∀ entryCount, lengthBelow? (2 ^ 64) entryCount = some (lengthFor entryCount.toNat)) ∧
    ∀ image, parseBelow (2 ^ 64) image = (parse image).mapError .header :=
  ⟨fun _ => exists_parse_iff, fun _ _ => fields_of_parse, parse_layout, lengthBelow?_eq,
    parseBelow_eq⟩

theorem parse_exact_entries :
    ∃ image header, image = layout 3 [⟨0x12345678, 0⟩, ⟨0xCAFEBABE, 0x40⟩] #v[1, 2, 3, 4]
        #v[5, 6, 7, 8] ++ [0xFF] ∧
      parse image = .ok header ∧ header.lineCount = 3 ∧ header.entryCount = 2 ∧
      header.entries[1]? = some ⟨0xCAFEBABE, 0x40⟩ ∧ header.length = 0x30 ∧
      header.Fields image := by
  obtain ⟨-, hfields, hlayout, -⟩ := parse_exact
  have hparse := hlayout 3 [⟨0x12345678, 0⟩, ⟨0xCAFEBABE, 0x40⟩] #v[1, 2, 3, 4] #v[5, 6, 7, 8]
    [0xFF] (by decide)
  exact ⟨_, _, rfl, hparse, rfl, rfl, rfl, rfl, hfields _ _ hparse⟩

end Header

end MajiroScript
