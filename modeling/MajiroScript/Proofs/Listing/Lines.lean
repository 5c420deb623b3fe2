import Mathlib.Data.List.Basic
import MajiroScript.Instruction.Listing
import MajiroScript.Instruction.Reader
import MajiroScript.Proofs.Hex
import MajiroScript.Proofs.Pieces

/-! The lines of a listing.  Each instruction has a line of its own as long as no
text operand holds a newline.  A newline in a text is listed as it is and breaks
the line, so that such an instruction takes several lines. -/
namespace MajiroScript

def IsLines (text : String) (lines : List String) : Prop :=
  text.toList.splitOn '\n' = lines.map String.toList ++ [[]]

/-- The rows of a text that may hold newlines.  Nothing ends the last one. -/
def rows (text : String) : List String :=
  (text.toList.splitOn '\n').map String.ofList

def Payload.OneLine : Payload → Prop
  | text content => '\n' ∉ content.toList
  | numeric _ | raw _ => True

def Instruction.OneLine (instruction : Instruction) : Prop :=
  ∀ operand ∈ instruction.operands, operand.payload.OneLine

instance (text : String) (lines : List String) : Decidable (IsLines text lines) :=
  inferInstanceAs (Decidable (_ = _))

instance : DecidablePred Payload.OneLine
  | .text content => inferInstanceAs (Decidable ('\n' ∉ content.toList))
  | .numeric _ | .raw _ => inferInstanceAs (Decidable True)

instance : DecidablePred Instruction.OneLine := fun instruction =>
  inferInstanceAs (Decidable (∀ operand ∈ instruction.operands, operand.payload.OneLine))

theorem notMem_of_mem_splitOn {separator : Char} {text piece : List Char}
    (h : piece ∈ text.splitOn separator) : separator ∉ piece := by
  rw [List.splitOn_eq_splitOnP] at h
  induction text using cut_induction (· == separator) with
  | run items hitems =>
      rw [List.splitOnP_eq_singleton hitems, List.mem_singleton] at h
      intro hmem
      simpa [h] using hitems separator (h ▸ hmem)
  | cut run newline items hrun hnewline ih =>
      rw [List.splitOnP_append_cons_of_forall_mem hrun newline hnewline, List.mem_cons] at h
      rcases h with rfl | hrest
      · intro hmem
        simpa using hrun separator hmem
      · exact ih hrest

theorem IsLines.unique {text : String} {lines others : List String} (h : IsLines text lines)
    (hother : IsLines text others) : lines = others := by
  have hlists := List.append_cancel_right (h.symm.trans hother)
  exact (List.map_inj_right fun _ _ => String.toList_inj.mp).mp hlists

theorem rows_eq_singleton {text : String} (h : '\n' ∉ text.toList) : rows text = [text] := by
  rw [rows, List.splitOn_eq_singleton h, List.map_singleton, String.ofList_toList]

theorem isDigit_of_mem_toString {value : Nat} {char : Char}
    (h : char ∈ (toString value).toList) : char.isDigit := by
  rw [Nat.toString_eq_repr, Nat.toList_repr] at h
  exact Nat.isDigit_of_mem_toDigits (by decide) (by decide) h

theorem Payload.newline_notMem_listed_iff (payload : Payload) :
    '\n' ∉ payload.listed.toList ↔ payload.OneLine := by
  cases payload with
  | numeric value =>
      simp only [listed, OneLine, iff_true]
      intro hmem
      exact absurd (isDigit_of_mem_toString hmem) (by decide)
  | text content => rfl
  | raw bytes =>
      simp only [listed, OneLine, iff_true]
      intro hmem
      exact absurd (Hex.isAlphanum_of_mem_spaced hmem) (by decide)

def listedFields (operands : List Operand) : List Char :=
  operands.flatMap fun operand => '\t' :: operand.payload.listed.toList

namespace Instruction

theorem toList_line (instruction : Instruction) :
    instruction.line.toList = (Hex.number instruction.opcode.toNat).toList ++
      listedFields instruction.operands := by
  simp [line, listedFields, List.flatMap_map]

theorem newline_notMem_line_iff (instruction : Instruction) :
    '\n' ∉ instruction.line.toList ↔ instruction.OneLine := by
  have hopcode : '\n' ∉ (Hex.number instruction.opcode.toNat).toList := by
    intro hmem
    exact absurd (Hex.isAlphanum_of_mem_number hmem) (by decide)
  have hoperand (operand : Operand) : '\n' ∉ '\t' :: operand.payload.listed.toList ↔
      operand.payload.OneLine := by
    rw [List.mem_cons, not_or, operand.payload.newline_notMem_listed_iff]
    simp
  simp only [toList_line, listedFields, List.mem_append, hopcode, false_or, List.mem_flatMap,
    not_exists, not_and, hoperand, OneLine]

end Instruction

theorem isLines_listing (instructions : List Instruction) :
    IsLines (listing instructions) (instructions.flatMap fun instruction =>
      rows instruction.line) := by
  have hrows (text : String) : (rows text).map String.toList = text.toList.splitOn '\n' := by
    simp [rows, Function.comp_def]
  unfold IsLines
  induction instructions with
  | nil => simp [listing]
  | cons instruction instructions ih =>
      have hfirst : (listing (instruction :: instructions)).toList =
          instruction.line.toList ++ '\n' :: (listing instructions).toList := by
        simp [listing]
      rw [hfirst, List.splitOn_append_cons_self, ih, List.flatMap_cons, List.map_append, hrows,
        List.append_assoc]

theorem isLines_listing_of_oneLine {instructions : List Instruction}
    (h : ∀ instruction ∈ instructions, instruction.OneLine) :
    IsLines (listing instructions) (instructions.map Instruction.line) := by
  have hrows : ∀ instruction ∈ instructions, rows instruction.line = [instruction.line] := by
    intro instruction hmem
    apply rows_eq_singleton
    exact instruction.newline_notMem_line_iff.mpr (h instruction hmem)
  have hlines := isLines_listing instructions
  rwa [List.flatMap_congr hrows, ← List.map_eq_flatMap] at hlines

/-- The lines of a listing are those of its instructions exactly when no text
operand holds a newline.  In any case they are the rows of the instructions. -/
theorem listing_line_each_iff (instructions : List Instruction) :
    IsLines (listing instructions) (instructions.flatMap fun instruction =>
        rows instruction.line) ∧
      (IsLines (listing instructions) (instructions.map Instruction.line) ↔
        ∀ instruction ∈ instructions, instruction.OneLine) := by
  refine ⟨isLines_listing instructions, ?_, isLines_listing_of_oneLine⟩
  intro h instruction hmem
  have hline : instruction.line.toList ∈ (listing instructions).toList.splitOn '\n' := by
    rw [h]
    exact List.mem_append_left _ (List.mem_map_of_mem (List.mem_map_of_mem hmem))
  exact instruction.newline_notMem_line_iff.mp (notMem_of_mem_splitOn hline)

theorem listing_line_each_ne :
    Codec.decodeAll {} [0x01, 0x08, 0x03, 0x00, 0x61, 0x0A, 0x62] =
        .ok [⟨0x801, [⟨3, true, .text "a\nb"⟩]⟩] ∧
      IsLines (listing [⟨0x801, [⟨3, true, .text "a\nb"⟩]⟩]) ["0x801\ta", "b"] ∧
      ¬ IsLines (listing [⟨0x801, [⟨3, true, .text "a\nb"⟩]⟩])
        ([⟨0x801, [⟨3, true, .text "a\nb"⟩]⟩].map Instruction.line) := by
  decide +kernel

end MajiroScript
