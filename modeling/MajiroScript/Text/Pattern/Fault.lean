import MajiroScript.Pieces

/-! What is wrong with a written pattern, and where. -/
namespace MajiroScript.Text.Pattern

/-- A part of a pattern: the number of characters before it, and before what
comes behind it. -/
structure Span where
  start : Nat
  stop : Nat
  deriving DecidableEq, Repr

inductive Fault where
  | escapeInSet
  | invertedRange
  | rangeOfSets
  | unclosedSet
  | largeDecimal
  | emptyHexadecimal
  | hexadecimalNoCharacter
  | invalidHexadecimal
  | unfinishedEscape
  | unknownEscape
  | danglingNegation
  | repeatedFlag
  | repeatedNegation
  | unfinishedFlags
  | unknownFlag
  | repeatedName
  | emptyName
  | invalidName
  | unclosedName
  | unclosedGroup
  | unopenedGroup
  | deepNesting (limit : Nat)
  | invertedCount
  | emptyCount
  | unclosedCount
  | nothingToRepeat
  | unclosedWordEdge
  | unknownWordEdge
  | unfinishedWordEdge
  | escapedProperty
  | backreference
  | lookAround
  | noPropertiesHere
  | brokenText
  | unknownProperty
  | unknownPropertyValue
  | noScriptTables
  | noCaseTables
  deriving DecidableEq, Repr

def Fault.message : Fault → String
  | escapeInSet => "invalid escape sequence found in character class"
  | invertedRange => "invalid character class range, the start must be <= the end"
  | rangeOfSets => "invalid range boundary, must be a literal"
  | unclosedSet => "unclosed character class"
  | largeDecimal => "decimal literal invalid"
  | emptyHexadecimal => "hexadecimal literal empty"
  | hexadecimalNoCharacter => "hexadecimal literal is not a Unicode scalar value"
  | invalidHexadecimal => "invalid hexadecimal digit"
  | unfinishedEscape => "incomplete escape sequence, reached end of pattern prematurely"
  | unknownEscape => "unrecognized escape sequence"
  | danglingNegation => "dangling flag negation operator"
  | repeatedFlag => "duplicate flag"
  | repeatedNegation => "flag negation operator repeated"
  | unfinishedFlags => "expected flag but got end of regex"
  | unknownFlag => "unrecognized flag"
  | repeatedName => "duplicate capture group name"
  | emptyName => "empty capture group name"
  | invalidName => "invalid capture group character"
  | unclosedName => "unclosed capture group name"
  | unclosedGroup => "unclosed group"
  | unopenedGroup => "unopened group"
  | deepNesting limit => s!"exceed the maximum number of nested parentheses/brackets ({limit})"
  | invertedCount => "invalid repetition count range, the start must be <= the end"
  | emptyCount => "repetition quantifier expects a valid decimal"
  | unclosedCount => "unclosed counted repetition"
  | nothingToRepeat => "repetition operator missing expression"
  | unclosedWordEdge =>
      "special word boundary assertion is either unclosed or contains an invalid character"
  | unknownWordEdge =>
      "unrecognized special word boundary assertion, valid choices are: " ++
        "start, end, start-half or end-half"
  | unfinishedWordEdge =>
      "found either the beginning of a special word boundary or a bounded repetition " ++
        "on a \\b with an opening brace, but no closing brace"
  | escapedProperty => "invalid Unicode character class"
  | backreference => "backreferences are not supported"
  | lookAround => "look-around, including look-ahead and look-behind, is not supported"
  | noPropertiesHere => "Unicode not allowed here"
  | brokenText => "pattern can match invalid UTF-8"
  | unknownProperty => "Unicode property not found"
  | unknownPropertyValue => "Unicode property value not found"
  | noScriptTables =>
      "Unicode-aware Perl class not found (make sure the unicode-perl feature is enabled)"
  | noCaseTables =>
      "Unicode-aware case insensitivity matching is not available " ++
        "(make sure the unicode-case feature is enabled)"

/-- A fault, the part of the pattern that it is about, and an earlier part that it
repeats. -/
structure ParseError where
  fault : Fault
  span : Span
  earlier? : Option Span := none
  deriving DecidableEq, Repr

namespace ParseError

def position (pattern : List Char) (offset : Nat) : Nat × Nat :=
  let lines := cut (· = '\n') (pattern.take offset)
  (lines.length - 1, (lines.getLastD []).length)

def dropReturn (line : List Char) : List Char :=
  if line.getLast? = some '\r' then line.dropLast else line

/-- Lines as they are shown.  Nothing is shown behind the last newline. -/
def lines (pattern : List Char) : List (List Char) :=
  let pieces := cut (· = '\n') pattern
  let last := pieces.getLastD []
  pieces.dropLast.map dropReturn ++ if last.isEmpty then [] else [last]

structure Mark where
  line : Nat
  start : Nat
  stop : Nat
  deriving DecidableEq, Repr

def underline (marks : List Mark) : List Char :=
  marks.foldl (fun shown mark =>
    shown ++ List.replicate (mark.start - shown.length) ' ' ++
      List.replicate (max 1 (mark.stop - mark.start)) '^') []

def spans (error : ParseError) : List Span :=
  match error.earlier? with
  | none => [error.span]
  | some earlier =>
      if earlier.start ≤ error.span.start then [earlier, error.span] else [error.span, earlier]

/-- Shows the place of a fault under the pattern.  Lines have numbers if there are
several, and a part that runs over several is told by its ends. -/
def message (error : ParseError) (text : String) : String :=
  let pattern := text.toList
  let places := error.spans.map fun span =>
    (position pattern span.start, position pattern span.stop)
  let marks : List Mark := places.filterMap fun (start, stop) =>
    if start.1 = stop.1 then some ⟨start.1, start.2, stop.2⟩ else none
  let several := pattern.contains '\n'
  let width := (toString (cut (· = '\n') pattern).length).length
  let shown := (lines pattern).mapIdx fun index line =>
    let number := toString (index + 1)
    let margin := if several then width + 2 else 4
    let before :=
      if several then String.ofList (List.replicate (width - number.length) ' ') ++ number ++ ": "
      else "    "
    let marks := marks.filter (·.line = index)
    let under :=
      if marks.isEmpty then ""
      else String.ofList (List.replicate margin ' ' ++ underline marks) ++ "\n"
    before ++ String.ofList line ++ "\n" ++ under
  let notes := places.filterMap fun (start, stop) =>
    if start.1 = stop.1 then none
    else some (s!"on line {start.1 + 1} (column {start.2 + 1}) " ++
      s!"through line {stop.1 + 1} (column {stop.2})\n")
  let divider := if several then String.ofList (List.replicate 79 '~') ++ "\n" else ""
  "regex parse error:\n" ++ divider ++ String.join shown ++ divider ++ String.join notes ++
    s!"error: {error.fault.message}"

end ParseError

end MajiroScript.Text.Pattern
