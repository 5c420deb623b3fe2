import MajiroScript.Instruction

/-! A script: the instructions of one body, open to patching. -/
namespace MajiroScript

structure Script where
  instructions : List Instruction := []
  deriving DecidableEq, Repr

namespace Script

def size (script : Script) : Nat :=
  script.instructions.length

def isEmpty (script : Script) : Bool :=
  script.instructions.isEmpty

def get? (script : Script) (index : Nat) : Option Instruction :=
  script.instructions[index]?

def push (script : Script) (instruction : Instruction) : Script :=
  ⟨script.instructions ++ [instruction]⟩

@[simp] theorem size_push (script : Script) (instruction : Instruction) :
    (script.push instruction).size = script.size + 1 := by
  simp [push, size]

/-- Puts an instruction before position `index`, where the end is a position
too.  There is no such position past the end. -/
def insert? (script : Script) (index : Nat) (instruction : Instruction) : Option Script :=
  if index ≤ script.size then some ⟨script.instructions.insertIdx index instruction⟩ else none

def precededBy (script : Script) (index : Nat) (opcode : Opcode) : Bool :=
  index > 0 && ((script.get? (index - 1)).map Instruction.opcode == some opcode)

end Script

end MajiroScript
