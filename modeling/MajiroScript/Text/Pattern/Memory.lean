import MajiroScript.Text.Pattern

/-! How much memory a machine takes that runs a pattern over the bytes of a text.
Counted parts are written out as often as they are counted, so that a short pattern
can ask for more than there is. -/
namespace MajiroScript.Text.Pattern

inductive Direction where
  | forward
  | backward
  deriving DecidableEq, Repr

def stateBytes : Nat := 32

def rangeBytes : Nat := 8

def exitBytes : Nat := 4

def firstItems [BEq α] (words : List (List α)) : List α :=
  (words.filterMap List.head?).eraseDups

def restsBehind [BEq α] (first : α) (words : List (List α)) : List (List α) :=
  words.filterMap fun word =>
    match word with
    | [] => none
    | item :: rest => if item == first then some rest else none

/-- Ranges of digits for the numbers from `low` to `high`, which have `width` digits
in base 64. -/
def digitRanges : Nat → Nat → Nat → List (List (Nat × Nat))
  | 0, _, _ => [[]]
  | width + 1, low, high =>
      let unit := 64 ^ width
      let first := low / unit
      let last := high / unit
      if first = last then
        (digitRanges width (low % unit) (high % unit)).map ((first, last) :: ·)
      else
        let startsFull := low % unit = 0
        let endsFull := high % unit = unit - 1
        let front := (digitRanges width (low % unit) (unit - 1)).map ((first, first) :: ·)
        let back := (digitRanges width 0 (high % unit)).map ((last, last) :: ·)
        let start := if startsFull then first else first + 1
        let stop := if endsFull then last else last - 1
        let middle := (digitRanges width 0 (unit - 1)).map ((start, stop) :: ·)
        (if startsFull then [] else front) ++ (if start ≤ stop then middle else []) ++
          (if endsFull then [] else back)

/-- First and last code point of those that are written with as many bytes, the
number of bytes, and what is added to the digits in the first byte. -/
def codeLengths : List (Nat × Nat × Nat × Nat) :=
  [(0x0, 0x7F, 1, 0x0), (0x80, 0x7FF, 2, 0xC0), (0x800, 0xD7FF, 3, 0xE0),
   (0xE000, 0xFFFF, 3, 0xE0), (0x10000, 0x10FFFF, 4, 0xF0)]

def byteRanges (chars : CharClass) : List (List (Nat × Nat)) :=
  chars.ranges.flatMap fun (low, high) => codeLengths.flatMap fun (first, last, width, mark) =>
    if max low first ≤ min high last then
      (digitRanges width (max low first) (min high last)).map fun digits =>
        match digits with
        | [] => []
        | (start, stop) :: rest =>
            (start + mark, stop + mark) :: rest.map fun (start, stop) => (start + 128, stop + 128)
    else []

def codeStates : Nat → List (List (Nat × Nat)) → List (List (List (Nat × Nat)))
  | 0, _ => []
  | depth + 1, codes =>
      if codes.all List.isEmpty then []
      else
        codes :: (firstItems codes).flatMap fun first => codeStates depth (restsBehind first codes)

def beginnings : Nat → List (List (Nat × Nat)) → Nat
  | 0, _ => 0
  | depth + 1, codes =>
      ((firstItems codes).map fun first => 1 + beginnings depth (restsBehind first codes)).sum

/-- Memory for a set.  Forward, equal ends of codes share their states; backward,
equal beginnings do. -/
def setMemory (direction : Direction) (chars : CharClass) : Nat :=
  if chars.isAscii then 2 * stateBytes + rangeBytes * chars.ranges.length
  else
    let codes := byteRanges chars
    match direction with
    | .forward =>
        stateBytes + ((codeStates 5 codes).eraseDups.map fun codes =>
          stateBytes + rangeBytes * (firstItems codes).length).foldr (· + ·) 0
    | .backward =>
        2 * stateBytes + exitBytes * codes.length + stateBytes * beginnings 5 codes

/-- Words that go on, cut where a word ends.  Ends before all others count once. -/
def cutAtEnds (words : List (List UInt8)) : List (List (List UInt8)) :=
  let (closed, last) := words.foldl (fun (closed, last) word =>
    if !word.isEmpty then (closed, last ++ [word])
    else if last.isEmpty && closed.all List.isEmpty && !closed.isEmpty then (closed, last)
    else (closed ++ [last], [])) (([] : List (List (List UInt8))), [])
  closed ++ [last]

def wordsMemory : Nat → List (List UInt8) → Nat
  | 0, _ => 0
  | depth + 1, words =>
      let pieces := cutAtEnds words
      let exits := (pieces.filter fun piece => !piece.isEmpty).length + (pieces.length - 1)
      stateBytes + exitBytes * exits + (pieces.map fun piece =>
        let firsts := firstItems piece
        (match firsts.length with
         | 0 => 0
         | 1 => stateBytes
         | count => stateBytes + rangeBytes * count) +
        (firsts.map fun first =>
          let rests := restsBehind first piece
          if rests.all List.isEmpty then 0 else wordsMemory depth rests).sum).sum

def literal? : Pattern → Option (List Char)
  | literal text => some text
  | _ => none

def literalsMemory (direction : Direction) (texts : List (List Char)) : Nat :=
  let words := texts.map fun text =>
    let bytes := text.flatMap String.utf8EncodeChar
    match direction with
    | .forward => bytes
    | .backward => bytes.reverse
  stateBytes + wordsMemory ((words.map List.length).foldl max 0 + 1) words

def leastLength? : Pattern → Option Nat
  | empty | place _ => some 0
  | literal text => some text.length
  | set chars => if chars.isEmpty then none else some 1
  | group _ body => body.leastLength?
  | repetition least _ _ body => body.leastLength?.map (least * ·)
  | sequence first second => do pure ((← first.leastLength?) + (← second.leastLength?))
  | either left right => do pure (min (← left.leastLength?) (← right.leastLength?))

/-- Memory for a pattern.  A pattern that is `inner` goes on with the branches of
the alternation before it. -/
def memory (direction : Direction) (inner : Bool) : Pattern → Nat
  | empty | place _ => stateBytes
  | literal text => stateBytes * (text.flatMap String.utf8EncodeChar).length
  | set chars => setMemory direction chars
  | group _ body =>
      body.memory direction false + if direction = .forward then 2 * stateBytes else 0
  | repetition least most _ body =>
      let once := body.memory direction false
      let turn := stateBytes + 2 * exitBytes
      match most with
      | none =>
          if 0 < least then least * once + turn
          else if body.leastLength?.any (0 < ·) then once + turn
          else once + 2 * turn + stateBytes
      | some most =>
          if least = most then least * once
          else if least = 0 && most = 1 then once + turn + stateBytes
          else
            (if least = 0 then stateBytes else least * once) + stateBytes +
              (most - least) * (once + turn)
  | sequence first second => first.memory direction false + second.memory direction false
  | either left right =>
      let all := left.memory direction false + right.memory direction true
      let branches := left :: right.branches
      if inner then all
      else
        match branches.mapM literal? with
        | some texts => literalsMemory direction texts
        | none => 2 * stateBytes + exitBytes * branches.length + all

def startsText : Pattern → Bool
  | place .textStart => true
  | group _ body => body.startsText
  | repetition least _ _ body => 0 < least && body.startsText
  | sequence first second => first.startsText || first.isEmptyOnly && second.startsText
  | either left right => left.startsText && right.startsText
  | _ => false

def endsText : Pattern → Bool
  | place .textEnd => true
  | group _ body => body.endsText
  | repetition least _ _ body => 0 < least && body.endsText
  | sequence first second => second.endsText || second.isEmptyOnly && first.endsText
  | either left right => left.endsText && right.endsText
  | _ => false

/-- Memory for a machine that searches a text for a pattern.  It reads over what
comes before a match, and forward it notes where the match begins and ends. -/
def machineMemory (direction : Direction) (pattern : Pattern) : Nat :=
  let isAnchored :=
    match direction with
    | .forward => pattern.startsText
    | .backward => pattern.endsText
  let before :=
    if isAnchored then stateBytes else 3 * stateBytes + rangeBytes + 2 * exitBytes
  let notes := if direction = .forward then 2 * stateBytes else 0
  before + notes + pattern.memory direction false + stateBytes

def hasAnyWord : Pattern → Bool
  | empty | literal _ | set _ => false
  | place spot =>
      match spot with
      | .anyWord _ => true
      | _ => false
  | group _ body | repetition _ _ _ body => body.hasAnyWord
  | sequence left right | either left right => left.hasAnyWord || right.hasAnyWord

end MajiroScript.Text.Pattern
