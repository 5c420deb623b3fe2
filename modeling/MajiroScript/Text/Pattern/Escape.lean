import MajiroScript.Text.Pattern.Scan
import MajiroScript.Text.Pattern.Tree

/-! The smallest parts of patterns: characters, and what a backslash gives a
meaning to. -/
namespace MajiroScript.Text.Pattern

inductive Primitive where
  | literal (sign : Literal)
  | dot (span : Span)
  | anchor (span : Span) (kind : Anchor)
  | shorthand (chars : Shorthand)
  | property (query : Property)
  deriving DecidableEq, Repr

namespace Primitive

def tree : Primitive → Tree
  | literal sign => .literal sign
  | dot span => .dot span
  | anchor span kind => .anchor span kind
  | shorthand chars => .shorthand chars
  | property query => .property query

def span (primitive : Primitive) : Span :=
  primitive.tree.span

def member (primitive : Primitive) : Except ParseError SetTree :=
  match primitive with
  | literal sign => .ok (.literal sign)
  | shorthand chars => .ok (.shorthand chars)
  | property query => .ok (.property query)
  | _ => fail .escapeInSet primitive.span

def rangeEnd (primitive : Primitive) : Except ParseError Literal :=
  match primitive with
  | literal sign => .ok sign
  | _ => fail .rangeOfSets primitive.span

end Primitive

namespace Scan

def isHexDigit (char : Char) : Bool :=
  char.isDigit || 'a' ≤ char && char ≤ 'f' || 'A' ≤ char && char ≤ 'F'

def hexValue (digits : List Char) : Nat :=
  digits.foldl (fun value digit =>
    value * 16 +
      if digit.isDigit then digit.toNat - 48
      else if digit.isUpper then digit.toNat - 55
      else digit.toNat - 87) 0

def charOf? (code : Nat) : Option Char :=
  if code.isValidChar then some (Char.ofNat code) else none

def readHexDigits (scan : Scan) : Nat → Except ParseError (List Char × Scan)
  | 0 => .ok ([], scan)
  | count + 1 =>
      match scan.rest with
      | [] => fail .unfinishedEscape scan.here
      | char :: _ =>
          if isHexDigit char then do
            let (digits, after) ← scan.advance.readHexDigits count
            pure (char :: digits, after)
          else fail .invalidHexadecimal scan.sign

/-- Reads a character of `width` hexadecimal digits, or of any number between
braces.  The escape begins at `start`. -/
def readHex (start width : Nat) (scan : Scan) : Except ParseError (Primitive × Scan) :=
  match scan.rest with
  | [] => fail .unfinishedEscape scan.here
  | '\x7b' :: _ =>
      let (digits, behind) := scan.advance.readWhile isHexDigit
      match behind.rest with
      | [] => fail .unfinishedEscape (behind.since scan.offset)
      | '\x7d' :: _ =>
          let after := behind.advance
          if digits.isEmpty then fail .emptyHexadecimal (after.since scan.offset)
          else
            match charOf? (hexValue digits) with
            | none => fail .hexadecimalNoCharacter (behind.since (scan.offset + 1))
            | some char => .ok (.literal ⟨after.since start, char, false⟩, after)
      | _ => fail .invalidHexadecimal behind.sign
  | _ => do
      let (digits, after) ← scan.readHexDigits width
      match charOf? (hexValue digits) with
      | none => fail .hexadecimalNoCharacter (after.since scan.offset)
      | some char => .ok (.literal ⟨after.since start, char, width = 2⟩, after)

def readProperty (start : Nat) (scan : Scan) : Except ParseError (Primitive × Scan) :=
  match scan.rest with
  | [] => fail .unfinishedEscape scan.here
  | '\\' :: _ => fail .escapedProperty scan.sign
  | '\x7b' :: _ =>
      let (name, behind) := scan.advance.readWhile (· ≠ '\x7d')
      if behind.rest.isEmpty then fail .unfinishedEscape behind.here
      else
        let after := behind.bump
        let hasValue := name.contains ':' || name.contains '='
        .ok (.property ⟨after.since start, name, hasValue⟩, after)
  | letter :: _ => .ok (.property ⟨scan.advance.since start, [letter], false⟩, scan.advance)

def isEdgeLetter (char : Char) : Bool :=
  char.isAlpha || char = '-'

/-- Reads the name of a special word edge from its opening brace on.  There is none
if the brace begins a count. -/
def readWordEdge? (start : Nat) (scan : Scan) : Except ParseError (Option (WordEdge × Scan)) :=
  let inside := scan.advance
  match inside.rest with
  | [] => fail .unfinishedWordEdge (inside.since start)
  | first :: _ =>
      if !isEdgeLetter first then .ok none
      else
        let (name, behind) := inside.readWhile isEdgeLetter
        if behind.rest.head? = some '\x7d' then
          match String.ofList name with
          | "start" => .ok (some (.start, behind.bump))
          | "end" => .ok (some (.finish, behind.bump))
          | "start-half" => .ok (some (.startHalf, behind.bump))
          | "end-half" => .ok (some (.finishHalf, behind.bump))
          | _ => fail .unknownWordEdge (behind.since inside.offset)
        else fail .unclosedWordEdge (behind.since scan.offset)

def isEscapable (char : Char) : Bool :=
  char.toNat < 0x80 && !char.isAlphanum && char ≠ '<' && char ≠ '>'

def readEscape (scan : Scan) : Except ParseError (Primitive × Scan) :=
  let start := scan.offset
  let behind := scan.bump
  match behind.rest with
  | [] => fail .unfinishedEscape (behind.since start)
  | letter :: _ =>
      let after := behind.bump
      let span := after.since start
      let sign (char : Char) : Except ParseError (Primitive × Scan) :=
        .ok (.literal ⟨span, char, false⟩, after)
      let anchor (kind : Anchor) : Except ParseError (Primitive × Scan) :=
        .ok (.anchor span kind, after)
      let shorthand (negated : Bool) (chars : NamedSet) : Except ParseError (Primitive × Scan) :=
        .ok (.shorthand ⟨span, negated, chars⟩, after)
      if letter.isDigit then fail .backreference span
      else if isEscapable letter then sign letter
      else
        match letter with
        | 'x' => behind.advance.readHex start 2
        | 'u' => behind.advance.readHex start 4
        | 'U' => behind.advance.readHex start 8
        | 'p' | 'P' => behind.advance.readProperty start
        | 'd' => shorthand false .digit
        | 'D' => shorthand true .digit
        | 's' => shorthand false .space
        | 'S' => shorthand true .space
        | 'w' => shorthand false .word
        | 'W' => shorthand true .word
        | 'a' => sign '\x07'
        | 'f' => sign '\x0c'
        | 'n' => sign '\n'
        | 'r' => sign '\r'
        | 't' => sign '\t'
        | 'v' => sign '\x0b'
        | 'A' => anchor .textStart
        | 'z' => anchor .textEnd
        | 'B' => anchor (.word .notBoundary)
        | '<' => anchor (.word .start)
        | '>' => anchor (.word .finish)
        | 'b' =>
            if after.rest.head? = some '\x7b' then do
              match ← after.readWordEdge? start with
              | some (edge, behind) => pure (.anchor (behind.since start) (.word edge), behind)
              | none => anchor (.word .boundary)
            else anchor (.word .boundary)
        | _ => fail .unknownEscape span

def readSign (scan : Scan) : Except ParseError (Primitive × Scan) :=
  match scan.rest with
  | [] => fail .unfinishedEscape scan.here
  | '\\' :: _ => scan.readEscape
  | char :: _ => .ok (.literal ⟨scan.sign, char, false⟩, scan.bump)

def readPrimitive (scan : Scan) : Except ParseError (Primitive × Scan) :=
  match scan.rest with
  | '.' :: _ => .ok (.dot scan.sign, scan.bump)
  | '^' :: _ => .ok (.anchor scan.sign .lineStart, scan.bump)
  | '$' :: _ => .ok (.anchor scan.sign .lineEnd, scan.bump)
  | _ => scan.readSign

end Scan

end MajiroScript.Text.Pattern
