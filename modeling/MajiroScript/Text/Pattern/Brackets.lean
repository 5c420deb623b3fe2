import MajiroScript.Text.Pattern.Escape

/-! Sets between brackets: characters, ranges, named sets such as `[:alpha:]`, sets
inside of sets, and the operators `&&`, `--` and `~~`. -/
namespace MajiroScript.Text.Pattern

namespace Brackets

structure Members where
  span : Span
  latest : List SetTree := []

namespace Members

def push (members : Members) (member : SetTree) : Members where
  span :=
    ⟨if members.latest.isEmpty then member.span.start else members.span.start, member.span.stop⟩
  latest := member :: members.latest

def tree (members : Members) : SetTree :=
  match members.latest with
  | [] => .nothing members.span
  | [member] => member
  | latest => .union members.span latest.reverse

end Members

structure Level where
  opened : Span
  negated : Bool
  members : Members
  pending? : Option (SetOperator × SetTree) := none

namespace Level

def tree (level : Level) : SetTree :=
  let right := level.members.tree
  match level.pending? with
  | none => right
  | some (operator, left) =>
      .operation ⟨left.span.start, right.span.stop⟩ operator left right

def push (level : Level) (member : SetTree) : Level :=
  { level with members := level.members.push member }

def operate (level : Level) (operator : SetOperator) (behind : Scan) : Level :=
  { level with pending? := some (operator, level.tree), members := { span := behind.here } }

end Level

structure State where
  scan : Scan
  level : Level
  outer : List Level := []

def readDashes (opened : Nat) (members : Members) (scan : Scan) :
    Except ParseError (Members × Scan) :=
  match next : scan.rest with
  | '-' :: _ =>
      have := Scan.length_advance_lt next
      let members := members.push (.literal ⟨scan.sign, '-', false⟩)
      if scan.advance.rest.isEmpty then fail .unclosedSet ⟨opened, opened⟩
      else readDashes opened members scan.advance
  | _ => .ok (members, scan)
termination_by scan.rest.length

/-- Reads the start of a set from its opening bracket on.  A closing bracket that
comes first stands for itself. -/
def openSet (scan : Scan) : Except ParseError (Level × Scan) := do
  let opened := scan.offset
  let inside := scan.advance
  let negated := inside.rest.head? = some '^'
  let first := if negated then inside.advance else inside
  if first.rest.isEmpty then fail .unclosedSet (first.since opened)
  else
    let (members, after) ← readDashes opened { span := first.here } first
    if members.latest.isEmpty && after.rest.head? = some ']' then
      let members := members.push (.literal ⟨after.sign, ']', false⟩)
      let behind := after.advance
      if behind.rest.isEmpty then fail .unclosedSet (behind.since opened)
      else pure ({ opened := behind.since opened, negated, members }, behind)
    else pure ({ opened := after.since opened, negated, members }, after)

def readNamed? (scan : Scan) : Option (SetTree × Scan) := do
  let inside ← scan.after? "[:"
  let negated := inside.rest.head? = some '^'
  let first := if negated then inside.bump else inside
  let name := first.rest.takeWhile (· ≠ ':')
  let after ← (first.drop name.length).after? ":]"
  let chars ← NamedSet.ofName? (String.ofList name)
  pure (.named (after.since scan.offset) negated chars, after)

namespace State

def unclosed (state : State) : Except ParseError α :=
  fail .unclosedSet state.level.opened

def readMember (state : State) : Except ParseError State := do
  let (first, after) ← state.scan.readSign
  let after := after.skip
  if after.rest.isEmpty then state.unclosed
  else if after.rest.head? ≠ some '-' || after.secondVisible? = some ']' ||
      after.secondVisible? = some '-' then
    pure { state with scan := after, level := state.level.push (← first.member) }
  else
    let behind := after.advance
    if behind.rest.isEmpty then state.unclosed
    else
      let (last, after) ← behind.readSign
      let span : Span := ⟨first.span.start, last.span.stop⟩
      let low ← first.rangeEnd
      let high ← last.rangeEnd
      if high.char < low.char then fail .invertedRange span
      else pure { state with scan := after, level := state.level.push (.range span low high) }

def readOperator? (state : State) : Option State :=
  let mark? (mark : String) (operator : SetOperator) : Option State :=
    (state.scan.after? mark).map fun behind =>
      { state with scan := behind, level := state.level.operate operator behind }
  mark? "&&" .intersection <|> mark? "--" .difference <|> mark? "~~" .symmetricDifference

def step (state : State) : Except ParseError (State ⊕ Tree × Scan) := do
  match state.scan.rest with
  | [] => state.unclosed
  | '[' :: _ =>
      match readNamed? state.scan with
      | some (named, after) =>
          pure (.inl { state with scan := after, level := state.level.push named })
      | none =>
          let (level, after) ← openSet state.scan
          pure (.inl { scan := after, level, outer := state.level :: state.outer })
  | ']' :: _ =>
      let after := state.scan.bump
      let span := after.since state.level.opened.start
      match state.outer with
      | [] => pure (.inr (.set span state.level.negated state.level.tree, after))
      | level :: outer =>
          let inner := SetTree.bracketed span state.level.negated state.level.tree
          pure (.inl { scan := after, level := level.push inner, outer })
  | _ =>
      match state.readOperator? with
      | some after => pure (.inl after)
      | none => .inl <$> state.readMember

/-- Reads on up to the closing bracket.  Each step reads a character at least, so
that `steps` are enough if they are more than the characters. -/
def run : Nat → State → Except ParseError (Tree × Scan)
  | 0, state => state.unclosed
  | steps + 1, state => do
      match ← { state with scan := state.scan.skip : State }.step with
      | .inl after => run steps after
      | .inr complete => pure complete

end State

end Brackets

def Scan.readSet (scan : Scan) : Except ParseError (Tree × Scan) := do
  let (level, after) ← Brackets.openSet scan
  Brackets.State.run (scan.rest.length + 1) { scan := after, level }

end MajiroScript.Text.Pattern
