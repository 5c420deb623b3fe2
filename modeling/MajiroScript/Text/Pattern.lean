import MajiroScript.Text.CharClass
import Std.Data.HashSet

/-! Patterns: regular expressions over characters.  A text is searched from left
to right with everything that is still to come of a match that has begun. -/
namespace MajiroScript.Text

inductive WordEdge where
  | boundary
  | notBoundary
  | start
  | finish
  | startHalf
  | finishHalf
  deriving DecidableEq, Hashable, Repr

namespace WordEdge

def holds (edge : WordEdge) (wordBefore wordBehind : Bool) : Bool :=
  match edge with
  | boundary => wordBefore != wordBehind
  | notBoundary => wordBefore == wordBehind
  | start => !wordBefore && wordBehind
  | finish => wordBefore && !wordBehind
  | startHalf => !wordBefore
  | finishHalf => !wordBehind

end WordEdge

inductive Place where
  | textStart
  | textEnd
  | lineStart
  | lineEnd
  | crlfLineStart
  | crlfLineEnd
  | asciiWord (edge : WordEdge)
  -- Words in all scripts. No table says what these are made of, so patterns with
  -- such a place are refused, and it is found nowhere.
  | anyWord (edge : WordEdge)
  deriving DecidableEq, Hashable, Repr

namespace Place

def isWordChar (char : Char) : Bool :=
  char.isAlphanum || char = '_'

def holds (place : Place) (before behind : Option Char) : Bool :=
  match place with
  | textStart => before.isNone
  | textEnd => behind.isNone
  | lineStart => before.isNone || before = some '\n'
  | lineEnd => behind.isNone || behind = some '\n'
  | crlfLineStart =>
      before.isNone || before = some '\n' || before = some '\r' && behind ≠ some '\n'
  | crlfLineEnd =>
      behind.isNone || behind = some '\r' || behind = some '\n' && before ≠ some '\r'
  | asciiWord edge => edge.holds (before.any isWordChar) (behind.any isWordChar)
  | anyWord _ => false

end Place

inductive Pattern where
  | empty
  | literal (text : List Char)
  | set (chars : CharClass)
  | place (spot : Place)
  | group (number : Nat) (body : Pattern)
  -- Several times in a row. Whether few times are preferred decides what is found
  -- first, not whether something is found.
  | repetition (least : Nat) (most : Option Nat) (preferFew : Bool) (body : Pattern)
  | sequence (first second : Pattern)
  | either (left right : Pattern)
  deriving DecidableEq, Hashable, Repr

namespace Pattern

def allowsEmpty (before behind : Option Char) : Pattern → Bool
  | empty => true
  | literal text => text.isEmpty
  | set _ => false
  | place spot => spot.holds before behind
  | group _ body => body.allowsEmpty before behind
  | repetition least _ _ body => least = 0 || body.allowsEmpty before behind
  | sequence first second => first.allowsEmpty before behind && second.allowsEmpty before behind
  | either left right => left.allowsEmpty before behind || right.allowsEmpty before behind

def followedBy (first second : Pattern) : Pattern :=
  if first = empty then second else sequence first second

/-- What is still to come of a pattern once a character is matched.  Rounds that
match nothing count too, so where the body allows that, no more rounds are owed. -/
def behind (before : Option Char) (next : Char) : Pattern → List Pattern
  | empty | place _ => []
  | literal text =>
      match text with
      | [] => []
      | first :: rest =>
          if first = next then [if rest.isEmpty then empty else literal rest] else []
  | set chars => if chars.contains next then [empty] else []
  | group _ body => body.behind before next
  | repetition least most preferFew body =>
      if most = some 0 then []
      else
        let least := if body.allowsEmpty before (some next) then 0 else least - 1
        let rest := repetition least (most.map (· - 1)) preferFew body
        (body.behind before next).map (followedBy · rest)
  | sequence first second =>
      (first.behind before next).map (followedBy · second) ++
        if first.allowsEmpty before (some next) then second.behind before next else []
  | either left right => left.behind before next ++ right.behind before next

def distinct (patterns : List Pattern) : List Pattern :=
  (patterns.foldl (fun (seen, kept) pattern =>
    if seen.contains pattern then (seen, kept) else (seen.insert pattern, pattern :: kept))
    ((∅ : Std.HashSet Pattern), [])).2

def occursFrom (pattern : Pattern) (before : Option Char) (begun : List Pattern) :
    List Char → Bool
  | [] => (pattern :: begun).any (allowsEmpty before none)
  | next :: rest =>
      (pattern :: begun).any (allowsEmpty before (some next)) ||
        pattern.occursFrom (some next)
          (distinct ((pattern :: begun).flatMap (behind before next))) rest

def occurs (pattern : Pattern) (text : String) : Bool :=
  pattern.occursFrom none [] text.toList

def nothing : Pattern :=
  set {}

def ofSet (chars : CharClass) : Pattern :=
  match chars.ranges with
  | [(first, last)] => if first = last then literal [Char.ofNat first] else set chars
  | _ => set chars

def isEmptyOnly : Pattern → Bool
  | empty | place _ => true
  | literal text => text.isEmpty
  | set _ => false
  | group _ body => body.isEmptyOnly
  | repetition _ most _ body => most.isSome && body.isEmptyOnly
  | sequence first second => first.isEmptyOnly && second.isEmptyOnly
  | either left right => left.isEmptyOnly && right.isEmptyOnly

/-- A repetition in its simplest form.  Rounds without text are not repeated. -/
def repeated (least : Nat) (most : Option Nat) (preferFew : Bool) (body : Pattern) : Pattern :=
  let (least, most) :=
    if body.isEmptyOnly then (min least 1, some ((most.map (min · 1)).getD 1)) else (least, most)
  if most = some 0 then empty
  else if least = 1 && most = some 1 then body
  else repetition least most preferFew body

def parts : Pattern → List Pattern
  | empty => []
  | sequence first second => first :: second.parts
  | pattern => [pattern]

def ofParts : List Pattern → Pattern
  | [] => empty
  | [part] => part
  | part :: rest => sequence part (ofParts rest)

def joinLiterals : List Pattern → List Pattern
  | [] => []
  | part :: rest =>
      match part, joinLiterals rest with
      | literal text, literal more :: rest => literal (text ++ more) :: rest
      | part, rest => part :: rest

def concat (patterns : List Pattern) : Pattern :=
  ofParts (joinLiterals (patterns.flatMap parts))

def branches : Pattern → List Pattern
  | either left right => left :: right.branches
  | pattern => [pattern]

def ofBranches : List Pattern → Pattern
  | [] => nothing
  | [branch] => branch
  | branch :: rest => either branch (ofBranches rest)

def char? : Pattern → Option Char
  | literal [char] => some char
  | _ => none

def set? : Pattern → Option CharClass
  | set chars => some chars
  | _ => none

def asSet? (branches : List Pattern) : Option CharClass :=
  match branches.mapM char? with
  | some chars => some (chars.foldl (fun all char => all.insert char.toNat char.toNat) {})
  | none => (branches.mapM set?).map fun sets => sets.foldl CharClass.union {}

def commonStart : List Pattern → List Pattern → List Pattern
  | left :: lefts, right :: rights => if left = right then left :: commonStart lefts rights else []
  | _, _ => []

def sharedStart (branches : List Pattern) : List Pattern :=
  match branches.map parts with
  | [] => []
  | first :: rest =>
      if (first :: rest).all (1 < ·.length) then rest.foldl commonStart first else []

def anyOf (patterns : List Pattern) : Pattern :=
  let branches := patterns.flatMap branches
  if branches.length ≤ 1 then ofBranches branches
  else
    match asSet? branches with
    | some chars => ofSet chars
    | none => ofBranches branches

/-- Alternatives with the parts that they all begin with in front. -/
def alternation (patterns : List Pattern) : Pattern :=
  match anyOf patterns with
  | either left right =>
      let branches := left :: right.branches
      let start := sharedStart branches
      if start.isEmpty then either left right
      else
        let rests := branches.map fun branch => concat (branch.parts.drop start.length)
        concat (start ++ [anyOf rests])
  | pattern => pattern

end Pattern

end MajiroScript.Text
