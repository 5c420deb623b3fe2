import MajiroScript.Instruction

/-! The listing of a script: a line for each instruction with the opcode in
hexadecimal and the operands behind tabs. -/
namespace MajiroScript

def Payload.listed : Payload → String
  | numeric value => toString value.toNat
  | text content => content
  | raw bytes => Hex.spaced bytes

def Instruction.line (instruction : Instruction) : String :=
  Hex.number instruction.opcode.toNat ++
    String.join (instruction.operands.map fun operand => "\t" ++ operand.payload.listed)

def listing (instructions : List Instruction) : String :=
  String.join (instructions.map fun instruction => instruction.line ++ "\n")

end MajiroScript
