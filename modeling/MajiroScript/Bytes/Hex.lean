import MajiroScript.Bytes
import MajiroScript.Text.Align

/-! Hexadecimal text, always in lower case. -/
namespace MajiroScript.Hex

def digits (value : Nat) : String :=
  String.ofList (Nat.toDigits 16 value)

def padded (width value : Nat) : String :=
  Text.padLeft '0' width (digits value)

def number (value : Nat) : String :=
  "0x" ++ digits value

def paddedNumber (width value : Nat) : String :=
  "0x" ++ padded width value

def byte (value : UInt8) : String :=
  padded 2 value.toNat

def ofBytes (bytes : Bytes) : String :=
  String.join (bytes.map byte)

def spaced (bytes : Bytes) : String :=
  " ".intercalate (bytes.map byte)

end MajiroScript.Hex
