import MajiroScript.Text.Charset

/-! UTF-8.  Bytes are cut from the left into characters and ill-formed pieces,
where a piece is as long as it could still begin a character.  The charset
accepts characters only; lossy decoding shows each piece as U+FFFD. -/
namespace MajiroScript.Text.Utf8

/-- What stands at the front of a byte string: a character or an ill-formed
piece, and how many bytes belong to it besides the first. -/
inductive Front where
  | scalar (char : Char) (more : Nat)
  | broken (more : Nat)
  deriving DecidableEq, Repr

/-- What a lead byte asks for: the bits it gives to the value, the number of
continuation bytes, and the range of the first of them. -/
structure Lead where
  bits : Nat
  more : Nat
  low : UInt8
  high : UInt8

/-- The narrower ranges keep out overlong forms, surrogates and values above
U+10FFFF. -/
def lead? (byte : UInt8) : Option Lead :=
  if byte < 0xC2 then none
  else if byte < 0xE0 then some ⟨byte.toNat % 32, 1, 0x80, 0xBF⟩
  else if byte = 0xE0 then some ⟨0, 2, 0xA0, 0xBF⟩
  else if byte = 0xED then some ⟨0xD, 2, 0x80, 0x9F⟩
  else if byte < 0xF0 then some ⟨byte.toNat % 16, 2, 0x80, 0xBF⟩
  else if byte = 0xF0 then some ⟨0, 3, 0x90, 0xBF⟩
  else if byte < 0xF4 then some ⟨byte.toNat % 8, 3, 0x80, 0xBF⟩
  else if byte = 0xF4 then some ⟨4, 3, 0x80, 0x8F⟩
  else none

/-- Reads the continuation bytes still owed.  Only the first of them can have a
range of its own. -/
def continued (value taken : Nat) (low high : UInt8) : (owed : Nat) → Bytes → Front
  | 0, _ => .scalar (Char.ofNat value) taken
  | _ + 1, [] => .broken taken
  | owed + 1, byte :: rest =>
      if low ≤ byte ∧ byte ≤ high then
        continued (value * 64 + byte.toNat % 64) (taken + 1) 0x80 0xBF owed rest
      else
        .broken taken

def front (byte : UInt8) (rest : Bytes) : Front :=
  if byte < 0x80 then .scalar (Char.ofNat byte.toNat) 0
  else
    match lead? byte with
    | none => .broken 0
    | some lead => continued lead.bits 0 lead.low lead.high lead.more rest

def charset : Charset where
  write char := some (String.utf8EncodeChar char)
  read byte rest :=
    match front byte rest with
    | .scalar char more => some (char, more)
    | .broken _ => none

def lossyFrom (before : List Char) : Bytes → List Char
  | [] => before.reverse
  | byte :: rest =>
      match front byte rest with
      | .scalar char more => lossyFrom (char :: before) (rest.drop more)
      | .broken more => lossyFrom ('\ufffd' :: before) (rest.drop more)
termination_by bytes => bytes.length
decreasing_by all_goals simp only [List.length_drop, List.length_cons]; omega

def decodeLossy (bytes : Bytes) : String :=
  String.ofList (lossyFrom [] bytes)

end MajiroScript.Text.Utf8
