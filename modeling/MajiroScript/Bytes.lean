/-! Byte strings and the little-endian numbers inside them. -/
namespace MajiroScript

abbrev Bytes := List UInt8

namespace Bytes

def toNatLE : Bytes → Nat
  | [] => 0
  | byte :: rest => byte.toNat + 256 * toNatLE rest

def ofNatLE : (width value : Nat) → Bytes
  | 0, _ => []
  | width + 1, value => value.toUInt8 :: ofNatLE width (value / 256)

def ofUInt16 (value : UInt16) : Bytes :=
  ofNatLE 2 value.toNat

def ofUInt32 (value : UInt32) : Bytes :=
  ofNatLE 4 value.toNat

/-- The 32-bit word at an offset.  Bytes past the end count as zero. -/
def uint32At (bytes : Bytes) (offset : Nat) : UInt32 :=
  (toNatLE ((bytes.drop offset).take 4)).toUInt32

@[simp] theorem length_ofNatLE (width value : Nat) :
    (ofNatLE width value).length = width := by
  induction width generalizing value with
  | zero => rfl
  | succ width ih => simp [ofNatLE, ih]

@[simp] theorem length_ofUInt16 (value : UInt16) : (ofUInt16 value).length = 2 :=
  length_ofNatLE 2 value.toNat

@[simp] theorem length_ofUInt32 (value : UInt32) : (ofUInt32 value).length = 4 :=
  length_ofNatLE 4 value.toNat

theorem ofNatLE_toNatLE (bytes : Bytes) :
    ofNatLE bytes.length bytes.toNatLE = bytes := by
  induction bytes with
  | nil => rfl
  | cons byte rest ih =>
      have hbyte := byte.toNat_lt
      have hdiv : (byte.toNat + 256 * toNatLE rest) / 256 = toNatLE rest := by omega
      have hmod : (byte.toNat + 256 * toNatLE rest).toUInt8 = byte := by
        apply UInt8.toNat_inj.mp
        simp only [Nat.toUInt8_eq, UInt8.toNat_ofNat']
        omega
      simp only [List.length_cons, toNatLE, ofNatLE, hdiv, hmod, ih]

end Bytes

end MajiroScript
