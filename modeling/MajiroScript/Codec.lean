import MajiroScript.Text.Encoding

/-! Settings that reading and writing instructions share. -/
namespace MajiroScript

structure Codec where
  encoding : Text.Encoding := .shiftJis
  -- Whether a text operand that is no text is an error. Otherwise its bytes are
  -- kept.
  strictText : Bool := false
  deriving DecidableEq, Repr

end MajiroScript
