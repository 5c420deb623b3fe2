import MajiroScript.Text.Charset
import Std.Data.HashMap

/-! Charsets with one-byte and two-byte codes, given by their decoding tables.
The encoding direction is the inverse of the tables, so that no byte string
other than the one a character is written with is ever read as that character. -/
namespace MajiroScript.Text

structure DoubleByte where
  single : UInt8 → Option Char
  double : UInt8 → UInt8 → Option Char
  -- A character that is only written, never read, is written like this one.
  standIn : Char → Char

namespace DoubleByte

def codes : List Bytes :=
  (List.range 0x100).map (fun byte => [byte.toUInt8]) ++
    (List.range 0x10000).map fun pair => [(pair / 0x100).toUInt8, pair.toUInt8]

/-- The character of a code.  A one-byte code is never a lead byte. -/
def char? (table : DoubleByte) : Bytes → Option Char
  | [byte] => table.single byte
  | [lead, trail] => if (table.single lead).isSome then none else table.double lead trail
  | _ => none

abbrev Index := @Std.HashMap Char Bytes _ instHashableChar

def index (table : DoubleByte) : Index :=
  codes.foldl (fun index code =>
    match table.char? code with
    | some char => index.insertIfNew char code
    | none => index) ∅

/-- ASCII stands for itself in every charset of this kind. -/
def code? (index : Index) (char : Char) : Option Bytes :=
  if char.toNat < 0x80 then some [char.toNat.toUInt8] else index[char]?

/-- A code is read only if its character is written with that very code. -/
def charset (table : DoubleByte) : Charset :=
  let index := table.index
  let write := fun char => code? index (table.standIn char)
  let accept := fun (code : Bytes) (char : Char) =>
    if write char = some code then some (char, code.length - 1) else none
  { write
    read := fun byte rest =>
      match table.single byte, rest with
      | some char, _ => accept [byte] char
      | none, trail :: _ => (table.double byte trail).bind (accept [byte, trail])
      | none, [] => none }

def column? (trail : UInt8) : Option Nat :=
  if trail < 0x40 then none
  else if trail < 0x7F then some (trail.toNat - 0x40)
  else if trail = 0x7F then none
  else some (trail.toNat - 0x41)

def cells (rows : List (UInt8 × String)) : Array (Array Char) :=
  ((List.range 0x100).map fun lead =>
    ((rows.lookup lead.toUInt8).getD "").toList.toArray).toArray

/-- The character in a cell.  A full stop marks a cell without one. -/
def cell? (cells : Array (Array Char)) (lead trail : UInt8) : Option Char := do
  let column ← column? trail
  let row ← cells[lead.toNat]?
  let char ← row[column]?
  if char = '.' then none else some char

end DoubleByte

end MajiroScript.Text
