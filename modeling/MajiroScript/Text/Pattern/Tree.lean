import MajiroScript.Text.Pattern
import MajiroScript.Text.Pattern.Fault

/-! Patterns as they are written, with the place of each part. -/
namespace MajiroScript.Text.Pattern

structure Literal where
  span : Span
  char : Char
  isByte : Bool := false
  deriving DecidableEq, Repr

inductive NamedSet where
  | alnum
  | alpha
  | ascii
  | blank
  | cntrl
  | digit
  | graph
  | lower
  | print
  | punct
  | space
  | upper
  | word
  | xdigit
  deriving DecidableEq, Repr

namespace NamedSet

def ofName? (name : String) : Option NamedSet :=
  match name with
  | "alnum" => some alnum
  | "alpha" => some alpha
  | "ascii" => some ascii
  | "blank" => some blank
  | "cntrl" => some cntrl
  | "digit" => some digit
  | "graph" => some graph
  | "lower" => some lower
  | "print" => some print
  | "punct" => some punct
  | "space" => some space
  | "upper" => some upper
  | "word" => some word
  | "xdigit" => some xdigit
  | _ => none

def chars : NamedSet → CharClass
  | alnum => ⟨[(0x30, 0x39), (0x41, 0x5A), (0x61, 0x7A)]⟩
  | alpha => ⟨[(0x41, 0x5A), (0x61, 0x7A)]⟩
  | ascii => ⟨[(0x0, 0x7F)]⟩
  | blank => ⟨[(0x9, 0x9), (0x20, 0x20)]⟩
  | cntrl => ⟨[(0x0, 0x1F), (0x7F, 0x7F)]⟩
  | digit => ⟨[(0x30, 0x39)]⟩
  | graph => ⟨[(0x21, 0x7E)]⟩
  | lower => ⟨[(0x61, 0x7A)]⟩
  | print => ⟨[(0x20, 0x7E)]⟩
  | punct => ⟨[(0x21, 0x2F), (0x3A, 0x40), (0x5B, 0x60), (0x7B, 0x7E)]⟩
  | space => ⟨[(0x9, 0xD), (0x20, 0x20)]⟩
  | upper => ⟨[(0x41, 0x5A)]⟩
  | word => ⟨[(0x30, 0x39), (0x41, 0x5A), (0x5F, 0x5F), (0x61, 0x7A)]⟩
  | xdigit => ⟨[(0x30, 0x39), (0x41, 0x46), (0x61, 0x66)]⟩

end NamedSet

/-- A set that a letter behind a backslash stands for, such as `\d`. -/
structure Shorthand where
  span : Span
  negated : Bool
  chars : NamedSet
  deriving DecidableEq, Repr

/-- A set of characters by one of their properties, such as `\pL`. -/
structure Property where
  span : Span
  name : List Char
  hasValue : Bool := false
  deriving DecidableEq, Repr

inductive SetOperator where
  | intersection
  | difference
  | symmetricDifference
  deriving DecidableEq, Repr

def SetOperator.apply : SetOperator → CharClass → CharClass → CharClass
  | intersection => CharClass.intersection
  | difference => CharClass.difference
  | symmetricDifference => CharClass.symmetricDifference

inductive SetTree where
  | nothing (span : Span)
  | literal (sign : Literal)
  | range (span : Span) (first last : Literal)
  | named (span : Span) (negated : Bool) (chars : NamedSet)
  | shorthand (chars : Shorthand)
  | property (query : Property)
  | bracketed (span : Span) (negated : Bool) (body : SetTree)
  | union (span : Span) (members : List SetTree)
  | operation (span : Span) (operator : SetOperator) (left right : SetTree)

def SetTree.span : SetTree → Span
  | nothing span | range span _ _ | named span _ _ | bracketed span _ _ | union span _
  | operation span _ _ _ => span
  | literal sign => sign.span
  | shorthand chars => chars.span
  | property query => query.span

inductive Flag where
  | ignoreCase
  | multiLine
  | dotNewline
  | swapPreference
  | allScripts
  | carriageReturn
  | verbose
  deriving DecidableEq, Repr

abbrev FlagChanges := List (Flag × Bool)

/-- Places as they are written, before flags are looked at. -/
inductive Anchor where
  | lineStart
  | lineEnd
  | textStart
  | textEnd
  | word (edge : WordEdge)
  deriving DecidableEq, Repr

inductive GroupKind where
  | numbered (number : Nat)
  | plain (changes : FlagChanges)
  deriving DecidableEq, Repr

inductive Tree where
  | empty (span : Span)
  | flags (span : Span) (changes : FlagChanges)
  | literal (sign : Literal)
  | dot (span : Span)
  | anchor (span : Span) (kind : Anchor)
  | shorthand (chars : Shorthand)
  | property (query : Property)
  | set (span : Span) (negated : Bool) (body : SetTree)
  | repetition (span : Span) (least : Nat) (most : Option Nat) (preferFew : Bool) (body : Tree)
  | group (span : Span) (kind : GroupKind) (body : Tree)
  | sequence (span : Span) (parts : List Tree)
  | alternation (span : Span) (branches : List Tree)

def Tree.span : Tree → Span
  | empty span | flags span _ | dot span | anchor span _ | set span _ _
  | repetition span _ _ _ _ | group span _ _ | sequence span _ | alternation span _ => span
  | literal sign => sign.span
  | shorthand chars => chars.span
  | property query => query.span

def nestingLimit : Nat := 250

mutual

def SetTree.deepPart? (depth : Nat) : SetTree → Option Span
  | .nothing _ | .literal _ | .range _ _ _ | .named _ _ _ | .shorthand _ | .property _ => none
  | .bracketed span _ body =>
      if nestingLimit ≤ depth then some span else body.deepPart? (depth + 1)
  | .union span members =>
      if nestingLimit ≤ depth then some span else SetTree.deepMember? (depth + 1) members
  | .operation span _ left right =>
      if nestingLimit ≤ depth then some span
      else
        match left.deepPart? (depth + 1) with
        | some span => some span
        | none => right.deepPart? (depth + 1)

def SetTree.deepMember? (depth : Nat) : List SetTree → Option Span
  | [] => none
  | member :: members =>
      match member.deepPart? depth with
      | some span => some span
      | none => SetTree.deepMember? depth members

end

mutual

def Tree.deepPart? (depth : Nat) : Tree → Option Span
  | .empty _ | .flags _ _ | .literal _ | .dot _ | .anchor _ _ | .shorthand _ | .property _ => none
  | .set span _ body => if nestingLimit ≤ depth then some span else body.deepPart? (depth + 1)
  | .repetition span _ _ _ body | .group span _ body =>
      if nestingLimit ≤ depth then some span else body.deepPart? (depth + 1)
  | .sequence span parts | .alternation span parts =>
      if nestingLimit ≤ depth then some span else Tree.deepPartIn? (depth + 1) parts

def Tree.deepPartIn? (depth : Nat) : List Tree → Option Span
  | [] => none
  | part :: parts =>
      match part.deepPart? depth with
      | some span => some span
      | none => Tree.deepPartIn? depth parts

end

end MajiroScript.Text.Pattern
