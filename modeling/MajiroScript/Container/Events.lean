import MajiroScript.Container
import MajiroScript.Log

/-! What opening an image logs. -/
namespace MajiroScript

/-- A text operand that had to be kept as bytes. -/
def Operand.keptBytes? (operand : Operand) (opcode : Opcode) : Option Bytes :=
  match opcode.grammar?, operand.payload with
  | some .text, .raw bytes => some bytes
  | _, _ => none

def Step.events (step : Step) (codec : Codec) : List Event :=
  let opcode := step.instruction.opcode
  let shown := Hex.paddedNumber 4 opcode.toNat
  let kept := step.instruction.operands.filterMap (·.keptBytes? opcode)
  kept.map (fun bytes =>
    ⟨.warn, .reader, s!"opcode {shown} at offset {Hex.number step.start}: {bytes.length} byte operand " ++
      s!"is not lossless {codec.encoding.name}, keeping raw bytes"⟩) ++
    [⟨.trace, .reader, s!"{Hex.paddedNumber 5 step.start}: opcode {shown} with " ++
      s!"{step.instruction.operands.length} operand(s)"⟩]

def Run.events (run : Run) : List Event :=
  run.steps.flatMap (·.events run.last.codec) ++
    match run.error? with
    | none => []
    | some error => [⟨.error, .reader, s!"instruction decoding stopped: {error.message}"⟩]

def Opening.events (opening : Opening) : List Event :=
  let header := opening.header
  let headerLength := header.length
  let bodyLength := opening.plain.length - headerLength
  let trailer := opening.run.last.remainder
  [⟨.debug, .container, s!"header: line_count={header.lineCount.toNat} " ++
    s!"entry_count={header.entryCount.toNat} header_len={Hex.number headerLength} " ++
    s!"body_len={bodyLength}"⟩] ++ opening.run.events ++
    match opening.run.error? with
    | some _ => []
    | none =>
        (if trailer.isEmpty then []
         else [⟨.debug, .container, s!"{trailer.length} trailing body byte(s) after last instruction"⟩]) ++
          [⟨.debug, .container, s!"decoded {opening.run.steps.length} instructions"⟩]

def Container.openEvents (codec : Codec) (key : Keystream) (image : Bytes) : List Event :=
  match Opening.ofImage codec key image with
  | .error _ => []
  | .ok opening => opening.events

end MajiroScript
