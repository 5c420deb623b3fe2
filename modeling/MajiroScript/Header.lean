import MajiroScript.Bytes.Hex

/-! The header of a script image: a signature, the line count at 0x14, the entry
count at 0x18, and from 0x20 on the entry table.  Other bytes have no meaning
here and are kept. -/
namespace MajiroScript

structure Entry where
  hash : UInt32
  offset : UInt32
  deriving DecidableEq, Repr

structure Header where
  lineCount : UInt32
  entryCount : UInt32
  entries : List Entry
  deriving DecidableEq, Repr

inductive HeaderError where
  | signatureMismatch (found : Bytes)
  | truncated (needed length : Nat)
  deriving DecidableEq, Repr

def HeaderError.message : HeaderError → String
  | signatureMismatch found => s!"signature mismatch: found {Hex.ofBytes found}"
  | truncated needed length => s!"header needs {needed} bytes, buffer has {length}"

namespace Header

/-- `MajiroObjX1.000` and a zero byte. -/
def signature : Bytes :=
  [0x4D, 0x61, 0x6A, 0x69, 0x72, 0x6F, 0x4F, 0x62, 0x6A, 0x58, 0x31, 0x2E, 0x30, 0x30, 0x30, 0x00]

def lineCountOffset : Nat := 0x14
def entryCountOffset : Nat := 0x18

def fixedLength : Nat := 0x20
def entryLength : Nat := 8

def lengthFor (entryCount : Nat) : Nat :=
  fixedLength + entryCount * entryLength

def length (header : Header) : Nat :=
  lengthFor header.entries.length

def checkSignature (image : Bytes) : Except HeaderError Unit :=
  let found := image.take signature.length
  if found = signature then .ok () else .error (.signatureMismatch found)

def readEntries : Bytes → List Entry
  | h0 :: h1 :: h2 :: h3 :: o0 :: o1 :: o2 :: o3 :: rest =>
      ⟨(Bytes.toNatLE [h0, h1, h2, h3]).toUInt32, (Bytes.toNatLE [o0, o1, o2, o3]).toUInt32⟩ ::
        readEntries rest
  | _ => []

def parse (image : Bytes) : Except HeaderError Header := do
  checkSignature image
  let available := image.length
  if available < fixedLength then
    throw (.truncated fixedLength available)
  let entryCount := image.uint32At entryCountOffset
  let needed := lengthFor entryCount.toNat
  if available < needed then
    throw (.truncated needed available)
  pure
    { lineCount := image.uint32At lineCountOffset
      entryCount
      entries := readEntries ((image.take needed).drop fixedLength) }

end Header

end MajiroScript
