import MajiroScript.Text.Pattern.Scan
import MajiroScript.Text.Pattern.Tree

/-! What written patterns mean.  There are tables of ASCII only, so sets of letters,
digits and blanks and a match in any case need the flag that takes characters as
bytes, and then no part may match half a character. -/
namespace MajiroScript.Text.Pattern

structure Flags where
  ignoreCase : Bool := false
  multiLine : Bool := false
  dotNewline : Bool := false
  swapPreference : Bool := false
  allScripts : Bool := true
  carriageReturn : Bool := false
  deriving DecidableEq, Repr

namespace Flags

def change (flags : Flags) : FlagChanges → Flags
  | [] => flags
  | (flag, value) :: changes =>
      let flags :=
        match flag with
        | .ignoreCase => { flags with ignoreCase := value }
        | .multiLine => { flags with multiLine := value }
        | .dotNewline => { flags with dotNewline := value }
        | .swapPreference => { flags with swapPreference := value }
        | .allScripts => { flags with allScripts := value }
        | .carriageReturn => { flags with carriageReturn := value }
        | .verbose => flags
      flags.change changes

end Flags

structure Selection where
  chars : CharClass := {}
  hasAllCases : Bool := true
  deriving DecidableEq, Repr

namespace Selection

def push (selection : Selection) (first last : Nat) : Selection :=
  ⟨selection.chars.insert first last, false⟩

def union (left right : Selection) : Selection :=
  if right.chars.isEmpty || left.chars = right.chars then left
  else ⟨left.chars.union right.chars, left.hasAllCases && right.hasAllCases⟩

def complement (selection : Selection) : Selection :=
  ⟨selection.chars.complement, selection.hasAllCases || selection.chars.isEmpty⟩

def intersection (left right : Selection) : Selection :=
  if left.chars.isEmpty then left
  else if right.chars.isEmpty then {}
  else ⟨left.chars.intersection right.chars, left.hasAllCases && right.hasAllCases⟩

def difference (left right : Selection) : Selection :=
  if left.chars.isEmpty || right.chars.isEmpty then left
  else ⟨left.chars.difference right.chars, left.hasAllCases && right.hasAllCases⟩

def operate (operator : SetOperator) (left right : Selection) : Selection :=
  match operator with
  | .intersection => left.intersection right
  | .difference => left.difference right
  | .symmetricDifference => (left.union right).difference (left.intersection right)

def fold (selection : Selection) (flags : Flags) (span : Span) : Except ParseError Selection :=
  if !flags.ignoreCase then .ok selection
  else if !flags.allScripts then .ok ⟨selection.chars.withCases, true⟩
  else if selection.hasAllCases || selection.chars.isEmpty then .ok selection
  else fail .noCaseTables span

/-- The selection, or everything else.  Everything else would hold halves of
characters if characters are bytes. -/
def close (selection : Selection) (flags : Flags) (span : Span) (negated : Bool) :
    Except ParseError Selection := do
  let selection ← selection.fold flags span
  if !negated then pure selection
  else if flags.allScripts then pure selection.complement
  else fail .brokenText span

end Selection

def Literal.code (sign : Literal) (flags : Flags) : Except ParseError Nat :=
  if flags.allScripts || sign.char.toNat < 0x80 then .ok sign.char.toNat
  else if sign.isByte then fail .brokenText sign.span
  else fail .noPropertiesHere sign.span

def Shorthand.select (shorthand : Shorthand) (flags : Flags) : Except ParseError Selection :=
  if flags.allScripts then fail .noScriptTables shorthand.span
  else if shorthand.negated then fail .brokenText shorthand.span
  else .ok ⟨shorthand.chars.chars, false⟩

namespace Property

/-- A name in lower case, without divisions and without `is` in front. -/
def plainName (query : Property) : List Char :=
  let name :=
    match query.name with
    | first :: second :: rest =>
        if first.toLower = 'i' && second.toLower = 's' then rest else query.name
    | name => name
  (name.filter fun char =>
    char ≠ ' ' && char ≠ '_' && char ≠ '-' && char.toNat < 0x80).map Char.toLower

/-- There are no properties.  Three names are taken for values of the general
category, and the others for names of properties. -/
def fault (query : Property) : Fault :=
  if !query.hasValue && ["cf", "lc", "sc"].contains (String.ofList query.plainName) then
    .unknownPropertyValue
  else .unknownProperty

def refuse (query : Property) (flags : Flags) : Except ParseError α :=
  fail (if flags.allScripts then query.fault else .noPropertiesHere) query.span

end Property

mutual

def SetTree.addTo (flags : Flags) (selection : Selection) :
    SetTree → Except ParseError Selection
  | .nothing _ => .ok selection
  | .literal sign => do
      let code ← sign.code flags
      pure (selection.push code code)
  | .range _ first last => do
      pure (selection.push (← first.code flags) (← last.code flags))
  | .named span negated chars => do
      pure (selection.union (← Selection.close ⟨chars.chars, false⟩ flags span negated))
  | .shorthand chars => do pure (selection.union (← chars.select flags))
  | .property query => query.refuse flags
  | .bracketed span negated body => do
      let inner ← body.addTo flags {}
      pure (selection.union (← inner.close flags span negated))
  | .union _ members => SetTree.addAllTo flags selection members
  | .operation _ operator left right => do
      let first ← left.addTo flags {}
      let second ← right.addTo flags {}
      let second ← second.fold flags right.span
      let first ← first.fold flags left.span
      pure (selection.union (.operate operator first second))

def SetTree.addAllTo (flags : Flags) (selection : Selection) :
    List SetTree → Except ParseError Selection
  | [] => .ok selection
  | member :: members => do
      SetTree.addAllTo flags (← member.addTo flags selection) members

end

def Literal.meaning (sign : Literal) (flags : Flags) : Except ParseError Pattern :=
  if flags.allScripts then
    if flags.ignoreCase then fail .noCaseTables sign.span else .ok (literal [sign.char])
  else if sign.isByte && 0x80 ≤ sign.char.toNat then fail .brokenText sign.span
  else if flags.ignoreCase then .ok (ofSet (CharClass.ofChar sign.char).withCases)
  else .ok (literal [sign.char])

def Flags.dot (flags : Flags) (span : Span) : Except ParseError Pattern :=
  if !flags.allScripts then fail .brokenText span
  else if flags.dotNewline then .ok (set (CharClass.complement {}))
  else if flags.carriageReturn then .ok (set (CharClass.complement ⟨[(0xA, 0xA), (0xD, 0xD)]⟩))
  else .ok (set (CharClass.complement ⟨[(0xA, 0xA)]⟩))

def Anchor.place (anchor : Anchor) (flags : Flags) : Place :=
  match anchor with
  | lineStart =>
      if !flags.multiLine then .textStart
      else if flags.carriageReturn then .crlfLineStart
      else .lineStart
  | lineEnd =>
      if !flags.multiLine then .textEnd
      else if flags.carriageReturn then .crlfLineEnd
      else .lineEnd
  | textStart => .textStart
  | textEnd => .textEnd
  | word edge => if flags.allScripts then .anyWord edge else .asciiWord edge

mutual

/-- What a part means, and the flags behind it.  Flags that change hold up to the
end of the group. -/
def Tree.meaning (flags : Flags) : Tree → Except ParseError (Pattern × Flags)
  | .empty _ => .ok (.empty, flags)
  | .flags _ changes => .ok (.empty, flags.change changes)
  | .literal sign => do pure (← sign.meaning flags, flags)
  | .dot span => do pure (← flags.dot span, flags)
  | .anchor _ kind => .ok (place (kind.place flags), flags)
  | .shorthand chars => do pure (ofSet (← chars.select flags).chars, flags)
  | .property query => query.refuse flags
  | .set span negated body => do
      let selection ← (← body.addTo flags {}).close flags span negated
      pure (ofSet selection.chars, flags)
  | .repetition _ least most preferFew body => do
      let (pattern, flags) ← body.meaning flags
      pure (pattern.repeated least most (preferFew != flags.swapPreference), flags)
  | .group _ (.numbered number) body => do
      let (pattern, _) ← body.meaning flags
      pure (.group number pattern, flags)
  | .group _ (.plain changes) body => do
      let (pattern, _) ← body.meaning (flags.change changes)
      pure (pattern, flags)
  | .sequence _ parts => do
      let (patterns, flags) ← Tree.meanings flags parts
      pure (.concat patterns, flags)
  | .alternation _ branches => do
      let (patterns, flags) ← Tree.meanings flags branches
      pure (.alternation patterns, flags)

def Tree.meanings (flags : Flags) : List Tree → Except ParseError (List Pattern × Flags)
  | [] => .ok ([], flags)
  | part :: parts => do
      let (pattern, flags) ← part.meaning flags
      let (patterns, flags) ← Tree.meanings flags parts
      pure (pattern :: patterns, flags)

end

end MajiroScript.Text.Pattern
