import MajiroScript.Keystream
import MajiroScript.Log
import MajiroScript.Pieces
import MajiroScript.Text.Quoted
import MajiroScript.Text.Utf8

/-! Keys as text: hexadecimal tokens between blanks and line ends.  A token
gives the low byte of its value, and a token that is no number gives zero. -/
namespace MajiroScript

namespace Keystream

def isSeparator (char : Char) : Bool :=
  char = ' ' || char = '\r' || char = '\n'

inductive TokenError where
  | invalidDigit
  | tooLarge
  deriving DecidableEq, Repr

def TokenError.message : TokenError → String
  | invalidDigit => "invalid digit found in string"
  | tooLarge => "number too large to fit in target type"

def digit? (char : Char) : Option Nat :=
  if '0' ≤ char ∧ char ≤ '9' then some (char.toNat - 48)
  else if 'a' ≤ char ∧ char ≤ 'f' then some (char.toNat - 87)
  else if 'A' ≤ char ∧ char ≤ 'F' then some (char.toNat - 55)
  else none

/-- Reads digits from the left.  The value has to stay below `2 ^ 64`. -/
def digitsValue (value : Nat) : List Char → Except TokenError Nat
  | [] => .ok value
  | char :: rest =>
      match digit? char with
      | none => .error .invalidDigit
      | some digit =>
          if value * 16 + digit < UInt64.size then digitsValue (value * 16 + digit) rest
          else .error .tooLarge

def tokenValue : List Char → Except TokenError Nat
  | '+' :: first :: rest => digitsValue 0 (first :: rest)
  | token => digitsValue 0 token

def tokenByte (token : List Char) : UInt8 :=
  match tokenValue token with
  | .ok value => value.toUInt8
  | .error _ => 0

def tokens (text : String) : List (List Char) :=
  pieces isSeparator text.toList

def parse (text : String) : Keystream :=
  ofBytes ((tokens text).map tokenByte)

/-- The key in a file.  Bytes that are not UTF-8 only spoil their token. -/
def ofFile (content : Bytes) : Keystream :=
  parse (Text.Utf8.decodeLossy content)

def sizeEvents (key : Keystream) : List Event :=
  if key.size = period then []
  else
    [⟨.warn, .keystream, s!"keystream has {key.size} bytes, expected {period}; missing slots act as 0"⟩]

def tokenEvents (token : List Char) : List Event :=
  match tokenValue token with
  | .ok _ => []
  | .error error =>
      let shown := Text.quoted (String.ofList token)
      [⟨.debug, .keystream,
        s!"keystream token {shown} is not hexadecimal ({error.message}), using 0"⟩]

def parseEvents (text : String) : List Event :=
  (tokens text).flatMap tokenEvents ++ (parse text).sizeEvents

end Keystream

end MajiroScript
