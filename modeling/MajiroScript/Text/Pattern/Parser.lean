import MajiroScript.Text.Letter
import MajiroScript.Text.Pattern.Brackets

/-! Patterns as they are written: `.` for any character of a line, sets between
brackets, groups between parentheses, `|` between alternatives, `*`, `+`, `?` and
counts between braces for repetition, `^` and `$` for the ends of the text, a
backslash before characters, and flags such as `(?x)`. -/
namespace MajiroScript.Text.Pattern

structure Level where
  start : Nat
  latest : List Tree := []
  firstStart : Nat := start
  branches : List Tree := []

namespace Level

def push (level : Level) (part : Tree) : Level :=
  { level with latest := part :: level.latest }

def branch (level : Level) (stop : Nat) : Tree :=
  match level.latest with
  | [] => .empty ⟨level.start, stop⟩
  | [part] => part
  | latest => .sequence ⟨level.start, stop⟩ latest.reverse

def tree (level : Level) (stop : Nat) : Tree :=
  match level.branches with
  | [] => level.branch stop
  | branches => .alternation ⟨level.firstStart, stop⟩ (level.branch stop :: branches).reverse

def divide (level : Level) (stop : Nat) : Level :=
  { level with
    start := stop + 1
    latest := []
    branches := level.branch stop :: level.branches }

def popRepeatable? (level : Level) : Option (Tree × Level) :=
  match level.latest with
  | [] | .flags _ _ :: _ => none
  | part :: latest => some (part, { level with latest })

end Level

structure OpenGroup where
  opened : Span
  kind : GroupKind
  verbose : Bool
  around : Level

structure Parser where
  scan : Scan
  level : Level := { start := 0 }
  openGroups : List OpenGroup := []
  groups : Nat := 0
  names : List (List Char × Span) := []

namespace Parser

/-- Reads a number.  A number that makes no sense is found out only when it is
needed. -/
def readDecimal (scan : Scan) : Except ParseError Nat × Scan :=
  let scan := scan.skipBlanks
  let (digits, after) := scan.readWhile Char.isDigit
  let span := after.since scan.offset
  let value := digits.foldl (fun value digit => value * 10 + (digit.toNat - 48)) 0
  (if digits.isEmpty then fail .emptyCount span
    else if value < 0x100000000 then .ok value
    else fail .largeDecimal span,
   after.skipBlanks)

def pushRepetition (parser : Parser) (level : Level) (part : Tree) (least : Nat)
    (most : Option Nat) (preferFew : Bool) (after : Scan) : Parser :=
  { parser with
    scan := after
    level := level.push (.repetition (after.since part.span.start) least most preferFew part) }

def readRepetition (parser : Parser) (least : Nat) (most : Option Nat) :
    Except ParseError Parser :=
  match parser.level.popRepeatable? with
  | none => fail .nothingToRepeat parser.scan.here
  | some (part, level) =>
      let after := parser.scan.bump
      if after.rest.head? = some '?' then
        .ok (parser.pushRepetition level part least most true after.bump)
      else .ok (parser.pushRepetition level part least most false after)

def readCounts (parser : Parser) : Except ParseError Parser := do
  let start := parser.scan.offset
  match parser.level.popRepeatable? with
  | none => fail .nothingToRepeat parser.scan.here
  | some (part, level) =>
      let inside := parser.scan.advance
      if inside.rest.isEmpty then fail .unclosedCount (inside.since start)
      else
        let (least, behind) := readDecimal inside
        if behind.rest.isEmpty then fail .unclosedCount (behind.since start)
        else
          let (least, most, behind) ←
            if behind.rest.head? = some ',' then
              let second := behind.advance
              if second.rest.isEmpty then fail .unclosedCount (second.since start)
              else if second.rest.head? = some '\x7d' then pure (← least, none, second)
              else do
                let least ← least
                let (most, behind) := readDecimal second
                pure (least, some (← most), behind)
            else do
              let count ← least
              pure (count, some count, behind)
          if behind.rest.head? ≠ some '\x7d' then fail .unclosedCount (behind.since start)
          else
            let after := behind.advance
            let preferFew := after.rest.head? = some '?'
            let after := if preferFew then after.bump else after
            if most.any (· < least) then fail .invertedCount (after.since start)
            else pure (parser.pushRepetition level part least most preferFew after)

def flagOf? (letter : Char) : Option Flag :=
  match letter with
  | 'i' => some .ignoreCase
  | 'm' => some .multiLine
  | 's' => some .dotNewline
  | 'U' => some .swapPreference
  | 'u' => some .allScripts
  | 'R' => some .carriageReturn
  | 'x' => some .verbose
  | _ => none

/-- A flag or the dash before flags that are cleared, and where it stands. -/
abbrev FlagSign := Option Flag × Span

def readFlags (signs : List FlagSign) (scan : Scan) : Except ParseError (List FlagSign × Scan) :=
  match next : scan.rest with
  | [] => fail .unfinishedFlags scan.here
  | ':' :: _ | ')' :: _ =>
      match signs with
      | (none, dash) :: _ => fail .danglingNegation dash
      | _ => .ok (signs, scan)
  | letter :: _ =>
      have := Scan.length_bump_lt next
      let flag := flagOf? letter
      if letter ≠ '-' && flag.isNone then fail .unknownFlag scan.sign
      else
        match signs.find? (·.1 = flag) with
        | some (_, earlier) =>
            .error ⟨if flag.isNone then .repeatedNegation else .repeatedFlag, scan.sign, earlier⟩
        | none => readFlags ((flag, scan.sign) :: signs) scan.bump
termination_by scan.rest.length

def flagChanges (signs : List FlagSign) : FlagChanges :=
  (signs.foldr (fun (flag, _) (changes, value) =>
    match flag with
    | none => (changes, false)
    | some flag => (changes ++ [(flag, value)], value)) (([] : FlagChanges), true)).1

def verbosity (changes : FlagChanges) (before : Bool) : Bool :=
  ((changes.find? (·.1 = .verbose)).map (·.2)).getD before

def startsName (char : Char) : Bool :=
  char = '_' || letters.contains char

def continuesName (char : Char) : Bool :=
  char = '_' || char = '.' || char = '[' || char = ']' || letters.contains char ||
    numerals.contains char

def readName (scan : Scan) : Except ParseError (List Char × Scan) :=
  let name :=
    if scan.rest.head?.any startsName then scan.rest.takeWhile continuesName else []
  let behind := scan.drop name.length
  match behind.rest with
  | [] => fail .unclosedName behind.here
  | '>' :: _ => if name.isEmpty then fail .emptyName scan.here else .ok (name, behind.bump)
  | _ => fail .invalidName behind.sign

def enter (parser : Parser) (opened : Span) (kind : GroupKind) (verbose : Bool) (scan : Scan) :
    Parser :=
  let inner : OpenGroup := ⟨opened, kind, parser.scan.verbose, parser.level⟩
  { parser with
    scan := { scan with verbose }
    level := { start := scan.offset }
    openGroups := inner :: parser.openGroups }

def enterNumbered (parser : Parser) (opened : Span) (scan : Scan) : Parser :=
  { parser.enter opened (.numbered (parser.groups + 1)) scan.verbose scan with
    groups := parser.groups + 1 }

def openGroup (parser : Parser) : Except ParseError Parser := do
  let opened := parser.scan.sign
  let inside := parser.scan.advance
  let around? := inside.after? "?=" <|> inside.after? "?!" <|> inside.after? "?<=" <|>
    inside.after? "?<!"
  match around? with
  | some behind => fail .lookAround (behind.since opened.start)
  | none =>
      match inside.after? "?P<" <|> inside.after? "?<", inside.after? "?" with
      | some named, _ =>
          let (name, after) ← readName named
          let span : Span := ⟨named.offset, named.offset + name.length⟩
          match parser.names.find? (·.1 = name) with
          | some (_, earlier) => .error ⟨.repeatedName, span, earlier⟩
          | none =>
              let entered := parser.enterNumbered opened after
              pure { entered with names := (name, span) :: parser.names }
      | none, none => pure (parser.enterNumbered opened inside)
      | none, some flags =>
          if flags.rest.isEmpty then fail .unclosedGroup opened
          else
            let (signs, behind) ← readFlags [] flags
            let changes := flagChanges signs
            let verbose := verbosity changes parser.scan.verbose
            let after := behind.bump
            if behind.rest.head? = some ':' then
              pure (parser.enter opened (.plain changes) verbose after)
            else if signs.isEmpty then fail .nothingToRepeat inside.here
            else
              pure { parser with
                scan := { after with verbose }
                level := parser.level.push (.flags (after.since opened.start) changes) }

def closeGroup (parser : Parser) : Except ParseError Parser :=
  match parser.openGroups with
  | [] => fail .unopenedGroup parser.scan.sign
  | inner :: outer =>
      let after := { parser.scan.bump with verbose := inner.verbose }
      let body := parser.level.tree parser.scan.offset
      .ok { parser with
        scan := after
        level := inner.around.push (.group (after.since inner.opened.start) inner.kind body)
        openGroups := outer }

def step (parser : Parser) : Except ParseError Parser :=
  match parser.scan.rest with
  | '(' :: _ => parser.openGroup
  | ')' :: _ => parser.closeGroup
  | '|' :: _ =>
      .ok { parser with
        scan := parser.scan.bump
        level := parser.level.divide parser.scan.offset }
  | '[' :: _ => do
      let (part, after) ← parser.scan.readSet
      pure { parser with scan := after, level := parser.level.push part }
  | '*' :: _ => parser.readRepetition 0 none
  | '+' :: _ => parser.readRepetition 1 none
  | '?' :: _ => parser.readRepetition 0 (some 1)
  | '\x7b' :: _ => parser.readCounts
  | _ => do
      let (part, after) ← parser.scan.readPrimitive
      pure { parser with scan := after, level := parser.level.push part.tree }

def finish (parser : Parser) : Except ParseError Tree :=
  match parser.openGroups with
  | [] => .ok (parser.level.tree parser.scan.offset)
  | inner :: _ => fail .unclosedGroup inner.opened

def run : Nat → Parser → Except ParseError Tree
  | 0, parser => parser.finish
  | steps + 1, parser => do
      let parser := { parser with scan := parser.scan.skip }
      if parser.scan.rest.isEmpty then parser.finish
      else run steps (← parser.step)

end Parser

def Tree.parse (text : String) : Except ParseError Tree := do
  let tree ← Parser.run (text.length + 1) { scan := { rest := text.toList } }
  match tree.deepPart? 0 with
  | some span => fail (.deepNesting nestingLimit) span
  | none => pure tree

end MajiroScript.Text.Pattern
