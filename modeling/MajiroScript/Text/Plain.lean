/-! Text without control sequences.  A terminal takes some characters as orders
and not as text: control characters, and sequences that start with the escape
character.  Text that does not go to a terminal is written without them. -/
namespace MajiroScript.Text

namespace Plain

/-- What the characters before have opened. -/
inductive Mode where
  | text
  | escape
  | escapeTail
  | control
  | deviceEntry
  | deviceParameters
  | deviceTail
  | command
  | string
  deriving DecidableEq, Repr

def isSpacing (char : Char) : Bool :=
  char = '\t' || char = '\n' || char = '\x0c' || char = '\r'

/-- The byte that ends a string counts also inside a longer code. -/
def endsString (char : Char) : Bool :=
  (String.utf8EncodeChar char).contains 0x9C

def sequenceStep (mode : Mode) (char : Char) : Mode :=
  match mode with
  | .escape =>
      if char < '0' then .escapeTail
      else if char = '[' then .control
      else if char = ']' then .command
      else if char = 'P' then .deviceEntry
      else if char = 'X' || char = '^' || char = '_' then .string
      else .text
  | .escapeTail => if char < '0' then .escapeTail else .text
  | .control => if char < '@' then .control else .text
  | .deviceEntry =>
      if char < '0' then .deviceTail
      else if char < '@' then .deviceParameters
      else .string
  | .deviceParameters =>
      if char < '0' then .deviceTail
      else if char < '<' then .deviceParameters
      else .string
  | .deviceTail => if char < '0' then .deviceTail else .string
  | .text | .command | .string => mode

structure State where
  mode : Mode := .text
  -- Whether the last character was shown. Characters behind a shown one are text,
  -- but ASCII characters close no sequence, so a sequence that was interrupted
  -- goes on behind them.
  shown : Bool := false
  deriving DecidableEq, Repr

def isShown (char : Char) : Bool :=
  ' ' ≤ char && char ≠ '\x7f' || isSpacing char

def hiddenStep (mode : Mode) (char : Char) : Mode :=
  match mode with
  | .text => .text
  | .command => if char = '\x07' then .text else .command
  | .string => if endsString char then .text else .string
  | _ => if ' ' ≤ char && char < '\x7f' then sequenceStep mode char else mode

def Mode.showsSpacing : Mode → Bool
  | .escape | .escapeTail | .control => true
  | _ => false

def step (state : State) (char : Char) : State :=
  if char = '\x1b' then ⟨.escape, false⟩
  else if char = '\x18' || char = '\x1a' then ⟨.text, false⟩
  else if (state.shown || state.mode = .text) && isShown char then
    ⟨if char < '\x80' then state.mode else .text, true⟩
  else if state.mode.showsSpacing && isSpacing char then ⟨state.mode, true⟩
  else ⟨hiddenStep state.mode char, false⟩

end Plain

def plain (text : String) : String :=
  let (_, shown) := text.toList.foldl (fun (state, shown) char =>
    let after := Plain.step state char
    (after, if after.shown then char :: shown else shown)) (({} : Plain.State), [])
  String.ofList shown.reverse

end MajiroScript.Text
