import MajiroScript.Text.Blank
import MajiroScript.Text.Pattern.Fault

/-! Reading a pattern from left to right.  In a verbose pattern, blanks and
comments from a `#` to the end of the line have no meaning. -/
namespace MajiroScript.Text.Pattern

structure Scan where
  rest : List Char
  offset : Nat := 0
  verbose : Bool := false

namespace Scan

def here (scan : Scan) : Span :=
  ⟨scan.offset, scan.offset⟩

def sign (scan : Scan) : Span :=
  ⟨scan.offset, scan.offset + 1⟩

def since (scan : Scan) (start : Nat) : Span :=
  ⟨start, scan.offset⟩

def drop (scan : Scan) (count : Nat) : Scan :=
  { scan with
    rest := scan.rest.drop count
    offset := scan.offset + (scan.rest.take count).length }

def bump (scan : Scan) : Scan :=
  scan.drop 1

def after? (scan : Scan) (mark : String) : Option Scan :=
  if mark.toList.isPrefixOf scan.rest then some (scan.drop mark.length) else none

/-- Characters without meaning at the start of a verbose pattern. -/
def fillerLength (inComment : Bool) : List Char → Nat
  | [] => 0
  | char :: rest =>
      if inComment then fillerLength (char ≠ '\n') rest + 1
      else if isBlank char then fillerLength false rest + 1
      else if char = '#' then fillerLength true rest + 1
      else 0

def skip (scan : Scan) : Scan :=
  if scan.verbose then scan.drop (fillerLength false scan.rest) else scan

def advance (scan : Scan) : Scan :=
  scan.bump.skip

theorem length_drop_le (scan : Scan) (count : Nat) :
    (scan.drop count).rest.length ≤ scan.rest.length := by
  simp only [drop, List.length_drop]
  omega

theorem length_skip_le (scan : Scan) : scan.skip.rest.length ≤ scan.rest.length := by
  unfold skip
  split
  · exact scan.length_drop_le _
  · exact Nat.le_refl _

theorem length_bump_lt {scan : Scan} {char : Char} {rest : List Char}
    (next : scan.rest = char :: rest) : scan.bump.rest.length < scan.rest.length := by
  simp only [bump, drop, List.length_drop, next, List.length_cons]
  omega

theorem length_advance_lt {scan : Scan} {char : Char} {rest : List Char}
    (next : scan.rest = char :: rest) : scan.advance.rest.length < scan.rest.length :=
  Nat.lt_of_le_of_lt scan.bump.length_skip_le (length_bump_lt next)

/-- Reads characters of a kind, without what has no meaning behind each. -/
def readWhile (isWanted : Char → Bool) (scan : Scan) : List Char × Scan :=
  match next : scan.rest with
  | [] => ([], scan)
  | char :: _ =>
      if isWanted char then
        have := length_advance_lt next
        let (chars, after) := scan.advance.readWhile isWanted
        (char :: chars, after)
      else ([], scan)
termination_by scan.rest.length

def skipBlanks (scan : Scan) : Scan :=
  scan.drop (scan.rest.takeWhile isBlank).length

def second? (scan : Scan) : Option Char :=
  scan.rest.tail.head?

/-- The character behind the next one and what has no meaning.  A `#` is left out
without its comment. -/
def secondVisible? (scan : Scan) : Option Char :=
  if scan.verbose then
    match scan.rest.tail.dropWhile isBlank with
    | '#' :: rest => (rest.dropWhile isBlank).head?
    | rest => rest.head?
  else scan.second?

end Scan

def fail (fault : Fault) (span : Span) : Except ParseError α :=
  .error { fault, span }

end MajiroScript.Text.Pattern
