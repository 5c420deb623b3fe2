import MajiroScript.Proofs.Listing.Lines
import MajiroScript.Proofs.Runs

/-! What a listing tells of its script.  Widths, length fields and the kinds of
operands are not listed, but the opcode and the payloads decide them, so that a
strict script whose texts hold no newline can be told from its listing. -/
namespace MajiroScript

open Text (Encoding)

theorem map_inj_of_mem {change : α → β} {items others : List α}
    (hinj : ∀ item ∈ items, ∀ other ∈ others, change item = change other → item = other)
    (h : items.map change = others.map change) : items = others := by
  induction items generalizing others with
  | nil => exact (List.map_eq_nil_iff.mp h.symm).symm
  | cons item items ih =>
      obtain ⟨other, others, rfl, hfirst, hothers⟩ := List.map_eq_cons_iff.mp h.symm
      have htail : items = others := by
        refine ih (fun item hitem other hother => ?_) hothers.symm
        exact hinj item (List.mem_cons_of_mem _ hitem) other (List.mem_cons_of_mem _ hother)
      rw [htail, hinj item List.mem_cons_self other List.mem_cons_self hfirst.symm]

theorem Opcode.stride_of_grammar? {opcode : Opcode} {stride : Nat}
    (h : opcode.grammar? = some (.table stride)) : stride = 4 := by
  revert h
  fun_cases grammar? opcode
  all_goals
    intro h
    cases h
  rfl

theorem splitOn_append_listedFields (front : List Char) (operands : List Operand) :
    (front ++ listedFields operands).splitOn '\t' = front.splitOn '\t' ++
      operands.flatMap fun operand => operand.payload.listed.toList.splitOn '\t' := by
  induction operands generalizing front with
  | nil => simp [listedFields]
  | cons operand operands ih =>
      have hfields : listedFields (operand :: operands) =
          '\t' :: (operand.payload.listed.toList ++ listedFields operands) := rfl
      rw [hfields, List.splitOn_append_cons_self, ih, List.flatMap_cons]

theorem Instruction.eq_of_line_eq {instruction other : Instruction}
    (h : instruction.line = other.line) :
    instruction.opcode = other.opcode ∧
      listedFields instruction.operands = listedFields other.operands := by
  -- The opcode is what stands before the first tab.
  have hpieces (instruction : Instruction) : instruction.line.toList.splitOn '\t' =
      (Hex.number instruction.opcode.toNat).toList ::
        instruction.operands.flatMap fun operand =>
          operand.payload.listed.toList.splitOn '\t' := by
    have htab : '\t' ∉ (Hex.number instruction.opcode.toNat).toList := by
      intro hmem
      exact absurd (Hex.isAlphanum_of_mem_number hmem) (by decide)
    rw [toList_line, splitOn_append_listedFields, List.splitOn_eq_singleton htab,
      List.singleton_append]
  have hchars := congrArg String.toList h
  have hfirst := congrArg (List.splitOn '\t') hchars
  rw [hpieces, hpieces] at hfirst
  have hopcode := String.toList_inj.mp (List.cons.inj hfirst).1
  rw [toList_line, toList_line, hopcode] at hchars
  exact ⟨UInt16.toNat_inj.mp (Hex.number_inj hopcode), List.append_cancel_left hchars⟩

theorem toString_toNat_inj {value other : UInt32}
    (h : toString value.toNat = toString other.toNat) : value = other := by
  rw [Nat.toString_eq_ofList_toDigits, Nat.toString_eq_ofList_toDigits] at h
  apply UInt32.toNat_inj.mp
  calc
    value.toNat = Nat.ofDigitChars 10 (Nat.toDigits 10 value.toNat) 0 :=
      Nat.ofDigitChars_ten_toDigits.symm
    _ = Nat.ofDigitChars 10 (Nat.toDigits 10 other.toNat) 0 := by rw [String.ofList_inj.mp h]
    _ = other.toNat := Nat.ofDigitChars_ten_toDigits

namespace Operand

theorem splitOn_listedFields_of_isNumber {operands : List Operand}
    (h : ∀ operand ∈ operands, operand.IsNumber) :
    (listedFields operands).splitOn '\t' =
      [] :: operands.map fun operand => operand.payload.listed.toList := by
  -- Numbers hold no tabs, so that each of them is one piece.
  have hpiece : ∀ operand ∈ operands, operand.payload.listed.toList.splitOn '\t' =
      [operand.payload.listed.toList] := by
    intro operand hmem
    obtain ⟨width, value, rfl, -⟩ := isNumber_iff.mp (h operand hmem)
    apply List.splitOn_eq_singleton
    intro htab
    exact absurd (isDigit_of_mem_toString htab) (by decide)
  have hfields := splitOn_append_listedFields [] operands
  rwa [List.nil_append, List.splitOn_nil, List.flatMap_congr hpiece, ← List.map_eq_flatMap,
    List.singleton_append] at hfields

theorem eq_of_listed_of_isNumber {operand other : Operand} (hoperand : operand.IsNumber)
    (hother : other.IsNumber) (hwidth : operand.declaredLength = other.declaredLength)
    (h : operand.payload.listed = other.payload.listed) : operand = other := by
  obtain ⟨width, value, rfl, -⟩ := isNumber_iff.mp hoperand
  obtain ⟨otherWidth, otherValue, rfl, -⟩ := isNumber_iff.mp hother
  obtain rfl : width = otherWidth := hwidth
  rw [toString_toNat_inj h]

theorem eq_of_listed_of_isBytes {operand other : Operand} {stride : Nat} (hstride : 0 < stride)
    (hoperand : operand.IsBytes stride) (hother : other.IsBytes stride)
    (h : operand.payload.listed = other.payload.listed) : operand = other := by
  -- The number of bytes decides the length field.
  obtain ⟨declared, bytes, rfl, hlength⟩ := isBytes_iff.mp hoperand
  obtain ⟨otherDeclared, otherBytes, rfl, hotherLength⟩ := isBytes_iff.mp hother
  obtain rfl := Hex.spaced_inj h
  have hdeclared := Nat.eq_of_mul_eq_mul_left hstride (hlength.symm.trans hotherLength)
  rw [UInt16.toNat_inj.mp hdeclared]

theorem eq_of_listedFields_of_single {operands others : List Operand}
    (hone : operands.length = 1) (hother : others.length = 1)
    (hinj : ∀ operand ∈ operands, ∀ other ∈ others,
      operand.payload.listed = other.payload.listed → operand = other)
    (h : listedFields operands = listedFields others) : operands = others := by
  -- A single operand is all that stands behind the first tab.
  obtain ⟨operand, rfl⟩ := List.length_eq_one_iff.mp hone
  obtain ⟨other, rfl⟩ := List.length_eq_one_iff.mp hother
  have hlisted : operand.payload.listed = other.payload.listed := by
    simpa [listedFields, String.toList_inj] using h
  rw [hinj operand (List.mem_singleton_self _) other (List.mem_singleton_self _) hlisted]

theorem eq_of_listedFields_of_numbers {operands others : List Operand}
    (hwidths : operands.map declaredLength = others.map declaredLength)
    (hnumbers : ∀ operand ∈ operands, operand.IsNumber)
    (hothers : ∀ other ∈ others, other.IsNumber)
    (h : listedFields operands = listedFields others) : operands = others := by
  have hpieces := splitOn_listedFields_of_isNumber hnumbers
  rw [h, splitOn_listedFields_of_isNumber hothers] at hpieces
  have hlisted := (List.cons.inj hpieces).2
  -- A number is told by its width together with its digits.
  have hboth : operands.map (fun operand =>
      (operand.declaredLength, operand.payload.listed.toList)) =
        others.map fun other => (other.declaredLength, other.payload.listed.toList) := by
    rw [← List.zip_map', ← List.zip_map', hwidths, hlisted]
  refine map_inj_of_mem (fun operand hmem other hother heq => ?_) hboth
  obtain ⟨hwidth, hdigits⟩ := Prod.mk.inj heq
  exact eq_of_listed_of_isNumber (hnumbers operand hmem) (hothers other hother) hwidth
    (String.toList_inj.mp hdigits)

end Operand

namespace Codec

theorem eq_of_listed_of_isText {codec : Codec} (hstrict : codec.strictText = true)
    {operand other : Operand} (hoperand : codec.IsText operand) (hother : codec.IsText other)
    (h : operand.payload.listed = other.payload.listed) : operand = other := by
  -- The text decides its bytes, and their number the length field.
  have htext : ∀ {operand : Operand}, codec.IsText operand → ∃ declared text bytes,
      operand = ⟨declared, true, .text text⟩ ∧ codec.encoding.encode text = some bytes ∧
        bytes.length = declared.toNat := by
    intro operand hoperand
    unfold IsText at hoperand
    split at hoperand
    · rename_i declared text
      obtain ⟨bytes, hbytes, hlength, -⟩ := hoperand
      exact ⟨declared, text, bytes, rfl, hbytes, hlength⟩
    · simp [hstrict] at hoperand
    · contradiction
  obtain ⟨declared, text, bytes, rfl, hbytes, hlength⟩ := htext hoperand
  obtain ⟨otherDeclared, otherText, otherBytes, rfl, hotherBytes, hotherLength⟩ := htext hother
  obtain rfl : text = otherText := h
  cases hbytes.symm.trans hotherBytes
  rw [UInt16.toNat_inj.mp (hlength.symm.trans hotherLength)]

theorem CanonicalOperands.eq_of_listedFields {codec : Codec} (hstrict : codec.strictText = true)
    {opcode : Opcode} {grammar : Grammar} (hgrammar : opcode.grammar? = some grammar)
    {operands others : List Operand} (hoperands : codec.CanonicalOperands grammar operands)
    (hothers : codec.CanonicalOperands grammar others)
    (h : listedFields operands = listedFields others) : operands = others := by
  cases grammar with
  | bare => exact hoperands.trans hothers.symm
  | fixed widths =>
      exact Operand.eq_of_listedFields_of_numbers (hoperands.1.trans hothers.1.symm) hoperands.2
        hothers.2 h
  | text =>
      refine Operand.eq_of_listedFields_of_single hoperands.1 hothers.1 ?_ h
      intro operand hmem other hother
      exact eq_of_listed_of_isText hstrict (hoperands.2 operand hmem) (hothers.2 other hother)
  | raw =>
      refine Operand.eq_of_listedFields_of_single hoperands.1 hothers.1 ?_ h
      intro operand hmem other hother
      exact Operand.eq_of_listed_of_isBytes Nat.one_pos (hoperands.2 operand hmem)
        (hothers.2 other hother)
  | table stride =>
      obtain rfl := Opcode.stride_of_grammar? hgrammar
      refine Operand.eq_of_listedFields_of_single hoperands.1 hothers.1 ?_ h
      intro operand hmem other hother
      exact Operand.eq_of_listed_of_isBytes (by decide) (hoperands.2 operand hmem)
        (hothers.2 other hother)

theorem Canonical.eq_of_line {codec : Codec} (hstrict : codec.strictText = true)
    {instruction other : Instruction} (hinstruction : codec.Canonical instruction)
    (hother : codec.Canonical other) (h : instruction.line = other.line) :
    instruction = other := by
  obtain ⟨grammar, hgrammar, hoperands⟩ := hinstruction
  obtain ⟨otherGrammar, hotherGrammar, hothers⟩ := hother
  obtain ⟨hopcode, hfields⟩ := Instruction.eq_of_line_eq h
  rw [← hopcode] at hotherGrammar
  cases hgrammar.symm.trans hotherGrammar
  cases instruction with
  | mk opcode operands =>
      cases other with
      | mk otherOpcode otherOperands =>
          dsimp only at hopcode hfields hgrammar hoperands hothers
          rw [hopcode, hoperands.eq_of_listedFields hstrict hgrammar hothers hfields]

theorem eq_of_listing {codec : Codec} (hstrict : codec.strictText = true)
    {instructions others : List Instruction}
    (hinstructions : ∀ instruction ∈ instructions, codec.Canonical instruction)
    (hothers : ∀ other ∈ others, codec.Canonical other)
    (hlines : ∀ instruction ∈ instructions, instruction.OneLine)
    (hotherLines : ∀ other ∈ others, other.OneLine)
    (h : listing instructions = listing others) : instructions = others := by
  have hline := isLines_listing_of_oneLine hlines
  rw [h] at hline
  refine map_inj_of_mem (fun instruction hmem other hother => ?_)
    (hline.unique (isLines_listing_of_oneLine hotherLines))
  exact (hinstructions instruction hmem).eq_of_line hstrict (hothers other hother)

/-- Strict scripts with one listing are the same script, if no text of theirs
holds a newline.  So their bodies differ at most in the byte behind the last
instruction. -/
theorem decodeAll_inj_of_listing {encoding : Encoding} {body otherBody : Bytes}
    {instructions others : List Instruction}
    (hbody : decodeAll ⟨encoding, true⟩ body = .ok instructions)
    (hotherBody : decodeAll ⟨encoding, true⟩ otherBody = .ok others)
    (hlines : ∀ instruction ∈ instructions, instruction.OneLine)
    (hotherLines : ∀ other ∈ others, other.OneLine)
    (h : listing instructions = listing others) :
    instructions = others ∧ ∃ bytes,
      body = bytes ++ (run ⟨encoding, true⟩ body).last.remainder ∧
      otherBody = bytes ++ (run ⟨encoding, true⟩ otherBody).last.remainder ∧
      (run ⟨encoding, true⟩ body).last.remainder.length < 2 ∧
      (run ⟨encoding, true⟩ otherBody).last.remainder.length < 2 := by
  obtain ⟨hcanonical, hshort, bytes, hbytes, hsplit⟩ := run_result_iff.mp ⟨hbody, rfl⟩
  obtain ⟨hothers, hotherShort, otherBytes, hotherBytes, hotherSplit⟩ :=
    run_result_iff.mp ⟨hotherBody, rfl⟩
  obtain rfl := eq_of_listing rfl hcanonical hothers hlines hotherLines h
  cases hbytes.symm.trans hotherBytes
  exact ⟨rfl, bytes, hsplit.symm, hotherSplit.symm, hshort, hotherShort⟩

theorem decodeAll_inj_of_listing_tab :
    decodeAll ⟨.utf8, true⟩ [1, 8, 3, 0, 0x61, 0x09, 0x62, 0x50, 8, 0, 0, 0x7F] =
        .ok [⟨0x801, [⟨3, true, .text "a\tb"⟩]⟩, ⟨0x850, [.raw 0 []]⟩] ∧
      decodeAll ⟨.utf8, true⟩ [1, 8, 3, 0, 0x61, 0x09, 0x62, 0x50, 8, 0, 0] =
        .ok [⟨0x801, [⟨3, true, .text "a\tb"⟩]⟩, ⟨0x850, [.raw 0 []]⟩] ∧
      listing [⟨0x801, [⟨3, true, .text "a\tb"⟩]⟩, ⟨0x850, [.raw 0 []]⟩] =
        "0x801\ta\tb\n0x850\t\n" ∧
      ∃ bytes, [1, 8, 3, 0, 0x61, 0x09, 0x62, 0x50, 8, 0, 0, 0x7F] = bytes ++ [0x7F] ∧
        [1, 8, 3, 0, 0x61, 0x09, 0x62, 0x50, 8, 0, 0] = bytes ++ ([] : Bytes) := by
  have hbody : decodeAll ⟨.utf8, true⟩ [1, 8, 3, 0, 0x61, 0x09, 0x62, 0x50, 8, 0, 0, 0x7F] =
      .ok [⟨0x801, [⟨3, true, .text "a\tb"⟩]⟩, ⟨0x850, [.raw 0 []]⟩] := by
    decide +kernel
  have hotherBody : decodeAll ⟨.utf8, true⟩ [1, 8, 3, 0, 0x61, 0x09, 0x62, 0x50, 8, 0, 0] =
      .ok [⟨0x801, [⟨3, true, .text "a\tb"⟩]⟩, ⟨0x850, [.raw 0 []]⟩] := by
    decide +kernel
  have hlines : ∀ instruction ∈
      ([⟨0x801, [⟨3, true, .text "a\tb"⟩]⟩, ⟨0x850, [.raw 0 []]⟩] : List Instruction),
        instruction.OneLine := by
    decide +kernel
  obtain ⟨-, bytes, hsplit, hotherSplit, -, -⟩ :=
    decodeAll_inj_of_listing hbody hotherBody hlines hlines rfl
  have hrest : (run ⟨.utf8, true⟩
      [1, 8, 3, 0, 0x61, 0x09, 0x62, 0x50, 8, 0, 0, 0x7F]).last.remainder = [0x7F] := by
    decide +kernel
  have hotherRest : (run ⟨.utf8, true⟩
      [1, 8, 3, 0, 0x61, 0x09, 0x62, 0x50, 8, 0, 0]).last.remainder = [] := by
    decide +kernel
  rw [hrest] at hsplit
  rw [hotherRest] at hotherSplit
  exact ⟨hbody, hotherBody, by decide +kernel, bytes, hsplit, hotherSplit⟩

-- Bytes that are kept because they are no text can look like a text.
example : decodeAll {} [1, 8, 1, 0, 0xFF] = .ok [⟨0x801, [.raw 1 [0xFF]]⟩] ∧
    decodeAll {} [1, 8, 2, 0, 0x66, 0x66] = .ok [⟨0x801, [⟨2, true, .text "ff"⟩]⟩] ∧
    listing [⟨0x801, [.raw 1 [0xFF]]⟩] = listing [⟨0x801, [⟨2, true, .text "ff"⟩]⟩] := by
  decide +kernel

end Codec

end MajiroScript
