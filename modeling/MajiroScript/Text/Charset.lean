import MajiroScript.Bytes

/-! Character sets.  A charset writes each character as a short byte string and
reads one character at a time from the front of a byte string.  Text is written
and read character by character, and a single failing step fails the whole. -/
namespace MajiroScript.Text

structure Charset where
  write : Char → Option Bytes
  -- The character that a byte starts, given the bytes behind it, and how many of
  -- those belong to the character.
  read : UInt8 → Bytes → Option (Char × Nat)

namespace Charset

def encode (charset : Charset) (text : String) : Option Bytes :=
  (text.toList.mapM charset.write).map List.flatten

def decodeFrom (charset : Charset) (before : List Char) : Bytes → Option (List Char)
  | [] => some before.reverse
  | byte :: rest =>
      match charset.read byte rest with
      | none => none
      | some (char, more) => charset.decodeFrom (char :: before) (rest.drop more)
termination_by bytes => bytes.length
decreasing_by simp only [List.length_drop, List.length_cons]; omega

def decode (charset : Charset) (bytes : Bytes) : Option String :=
  (charset.decodeFrom [] bytes).map String.ofList

end Charset

end MajiroScript.Text
