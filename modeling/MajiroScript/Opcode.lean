/-! Opcodes and the operand grammar of each.  The grammar is all that is needed
to find the end of an instruction, so an opcode without one ends the reading. -/
namespace MajiroScript

abbrev Opcode := UInt16

inductive Grammar where
  | bare
  | fixed (widths : List UInt16)
  -- These three stand behind a 16-bit count, of bytes or of elements of `stride`
  -- bytes.
  | text
  | raw
  | table (stride : Nat)
  deriving DecidableEq, Repr

namespace Grammar

def minOperandLength : Grammar → Nat
  | bare => 0
  | fixed widths => widths.foldr (fun width total => width.toNat + total) 0
  | text | raw | table _ => 2

def payloadLength (grammar : Grammar) (declared : UInt16) : Nat :=
  match grammar with
  | table stride => declared.toNat * stride
  | _ => declared.toNat

end Grammar

namespace Opcode

def maxGeneric : Opcode := 850

/-- The listed opcodes come first, then the range without operands, then the
generic form. -/
def grammar? (opcode : Opcode) : Option Grammar :=
  if opcode ∈ [0x800, 0x803, 0x82C, 0x82D, 0x82E, 0x830, 0x831, 0x832, 0x833, 0x838, 0x839,
      0x83B, 0x83C, 0x83D, 0x843, 0x845, 0x847] then some (.fixed [4])
  else if opcode ∈ [0x801, 0x836, 0x840, 0x842] then some .text
  else if opcode = 0x829 then some .raw
  else if opcode = 0x802 then some (.fixed [2, 4, 2])
  else if opcode ∈ [0x80F, 0x810] then some (.fixed [4, 4, 2])
  else if opcode ∈ [0x834, 0x835] then some (.fixed [4, 2])
  else if opcode = 0x837 then some (.fixed [4, 4])
  else if opcode = 0x83A then some (.fixed [2])
  else if opcode = 0x850 then some (.table 4)
  else if opcode ∈ [0x82B, 0x82F, 0x83E, 0x83F, 0x841, 0x844, 0x846] then some .bare
  else if 0x100 ≤ opcode ∧ opcode ≤ 0x1A9 then some .bare
  else if opcode ≤ maxGeneric then some (.fixed [2, 4, 2])
  else none

def runs (first last : Opcode) : List (Opcode × Opcode × Option Grammar) :=
  let opcodes := (List.range' first.toNat (last.toNat + 1 - first.toNat)).map Nat.toUInt16
  (opcodes.splitBy fun left right => grammar? left == grammar? right).filterMap fun run => do
    let low ← run.head?
    let high ← run.getLast?
    pure (low, high, grammar? low)

end Opcode

end MajiroScript
