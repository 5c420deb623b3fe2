import MajiroScript.Bytes

/-! The key that hides script bodies: a table of 1024 bytes, repeated and
combined with the body by exclusive or.  Keys of any length are accepted. -/
namespace MajiroScript

structure Keystream where
  bytes : Array UInt8
  deriving DecidableEq, Repr

namespace Keystream

def period : Nat := 1024

def ofBytes (bytes : Bytes) : Keystream :=
  ⟨bytes.toArray⟩

def toBytes (key : Keystream) : Bytes :=
  key.bytes.toList

@[simp] theorem toBytes_ofBytes (bytes : Bytes) : (ofBytes bytes).toBytes = bytes := rfl

theorem toBytes_inj {key other : Keystream} : key.toBytes = other.toBytes ↔ key = other := by
  cases key
  cases other
  simp [toBytes]

def size (key : Keystream) : Nat :=
  key.bytes.size

@[simp] theorem length_toBytes (key : Keystream) : key.toBytes.length = key.size := rfl

/-- Key byte for a place in the body.  Slots that a short key lacks are zero,
and bytes past the period are never used. -/
def keyAt (key : Keystream) (counter : Nat) : UInt8 :=
  key.bytes.getD (counter % period) 0

def apply (key : Keystream) (data : Bytes) : Bytes :=
  data.mapIdx fun counter byte => byte ^^^ key.keyAt counter

@[simp] theorem length_apply (key : Keystream) (data : Bytes) :
    (key.apply data).length = data.length := by
  simp [apply]

@[simp] theorem getElem?_apply (key : Keystream) (data : Bytes) (counter : Nat) :
    (key.apply data)[counter]? = data[counter]?.map (· ^^^ key.keyAt counter) := by
  simp [apply]

@[simp] theorem apply_apply (key : Keystream) (data : Bytes) :
    key.apply (key.apply data) = data := by
  apply List.ext_getElem?
  intro counter
  simp only [getElem?_apply, Option.map_map]
  cases data[counter]? with
  | none => rfl
  | some byte =>
      simp only [Option.map_some, Function.comp_apply]
      rw [UInt8.xor_assoc, UInt8.xor_self, UInt8.xor_zero]

def crcStep (word : UInt32) : UInt32 :=
  if word &&& 1 = 1 then (word >>> 1) ^^^ 0xEDB88320 else word >>> 1

def crcWord (byte : UInt32) : UInt32 :=
  crcStep (crcStep (crcStep (crcStep (crcStep (crcStep (crcStep (crcStep byte)))))))

/-- The key of the script engine: the CRC-32 table in little-endian words. -/
def builtin : Keystream :=
  ofBytes ((List.range 256).flatMap fun byte => Bytes.ofUInt32 (crcWord byte.toUInt32))

end Keystream

end MajiroScript
