import MajiroScript.Text.Pattern.Meaning
import MajiroScript.Text.Pattern.Memory
import MajiroScript.Text.Pattern.Parser

/-! From a text to a pattern that can be searched for. -/
namespace MajiroScript.Text.Pattern

inductive Rejection where
  | unreadable (error : ParseError)
  | tooLarge
  | wordsOfAllScripts
  deriving DecidableEq, Repr

def memoryLimit : Nat := 10485760

def Rejection.message (text : String) : Rejection → String
  | unreadable error => error.message text
  | tooLarge => s!"Compiled regex exceeds size limit of {memoryLimit} bytes."
  | wordsOfAllScripts => "error building NFA"

def parse (text : String) : Except Rejection Pattern := do
  let tree ← (Tree.parse text).mapError .unreadable
  let (pattern, _) ← (tree.meaning {}).mapError .unreadable
  if memoryLimit < pattern.machineMemory .forward then .error .tooLarge
  else if pattern.hasAnyWord then .error .wordsOfAllScripts
  else if memoryLimit < pattern.machineMemory .backward then .error .tooLarge
  else pure pattern

end MajiroScript.Text.Pattern
