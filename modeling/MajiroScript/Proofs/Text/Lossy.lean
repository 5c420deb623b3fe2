import MajiroScript.Proofs.Text.ReadBack

/-! Lossy decoding and ASCII.  An ASCII byte stands for itself wherever it is: an
ill-formed piece ends before it, and nothing else is decoded to it. -/
namespace MajiroScript.Text.Utf8

def Front.shown : Front → Char
  | scalar char _ => char
  | broken _ => '\ufffd'

def Front.more : Front → Nat
  | scalar _ more => more
  | broken more => more

def charOf (byte : UInt8) : Char :=
  Char.ofNat byte.toNat

theorem toNat_charOf (byte : UInt8) : (charOf byte).toNat = byte.toNat :=
  toNat_charOfNat (.inl (by have := byte.toNat_lt; omega))

theorem lossyFrom_cons (before : List Char) (byte : UInt8) (rest : Bytes) :
    lossyFrom before (byte :: rest) =
      lossyFrom ((front byte rest).shown :: before) (rest.drop (front byte rest).more) := by
  rw [lossyFrom]
  cases front byte rest with
  | scalar char more => rfl
  | broken more => rfl

@[elab_as_elim] theorem front_induction {motive : Bytes → Prop} (nil : motive [])
    (cons : ∀ byte rest, motive (rest.drop (front byte rest).more) → motive (byte :: rest)) :
    (bytes : Bytes) → motive bytes
  | [] => nil
  | byte :: rest => cons byte rest (front_induction nil cons (rest.drop (front byte rest).more))
termination_by bytes => bytes.length
decreasing_by simp only [List.length_drop, List.length_cons]; omega

theorem lossyFrom_eq_append (before : List Char) (bytes : Bytes) :
    lossyFrom before bytes = before.reverse ++ lossyFrom [] bytes := by
  induction bytes using front_induction generalizing before with
  | nil => simp [lossyFrom]
  | cons byte rest ih =>
      rw [lossyFrom_cons, lossyFrom_cons, ih, ih [_]]
      simp

@[simp] theorem toList_decodeLossy_nil : (decodeLossy []).toList = [] := by
  simp [decodeLossy, lossyFrom]

theorem toList_decodeLossy_cons (byte : UInt8) (rest : Bytes) :
    (decodeLossy (byte :: rest)).toList = (front byte rest).shown ::
      (decodeLossy (rest.drop (front byte rest).more)).toList := by
  simp only [decodeLossy, String.toList_ofList]
  rw [lossyFrom_cons, lossyFrom_eq_append]
  rfl

theorem continued_append {value taken : Nat} {low high ascii : UInt8} (hlow : 0x80 ≤ low.toNat)
    (hascii : ascii.toNat < 0x80) (owed : Nat) (rest behind : Bytes) :
    continued value taken low high owed (rest ++ ascii :: behind) =
      continued value taken low high owed rest := by
  induction owed generalizing value taken low high rest with
  | zero => rfl
  | succ owed ih =>
      cases rest with
      | nil =>
          have hrange : ¬ (low ≤ ascii ∧ ascii ≤ high) := by
            rw [UInt8.le_iff_toNat_le]
            omega
          simp only [List.nil_append, continued, if_neg hrange]
      | cons byte rest =>
          simp only [List.cons_append, continued]
          split
          · exact ih (by decide) rest
          · rfl

theorem more_continued_le (value taken : Nat) (low high : UInt8) (owed : Nat) (rest : Bytes) :
    (continued value taken low high owed rest).more ≤ taken + rest.length := by
  induction owed generalizing value taken low high rest with
  | zero => exact Nat.le_add_right taken rest.length
  | succ owed ih =>
      cases rest with
      | nil => exact Nat.le_add_right taken 0
      | cons byte rest =>
          simp only [continued]
          split
          · have hmore := ih (value * 64 + byte.toNat % 64) (taken + 1) 0x80 0xBF rest
            rw [List.length_cons]
            omega
          · exact Nat.le_add_right taken _

theorem le_low_of_lead? {byte : UInt8} {lead : Lead} (h : lead? byte = some lead) :
    0x80 ≤ lead.low.toNat := by
  have hcases := lead?_cases h
  omega

/-- No front reaches past an ASCII byte behind it. -/
theorem front_append {ascii : UInt8} (hascii : ascii.toNat < 0x80) (byte : UInt8)
    (rest behind : Bytes) : front byte (rest ++ ascii :: behind) = front byte rest := by
  unfold front
  cases hlead : lead? byte with
  | none => rfl
  | some lead => simp only [continued_append (le_low_of_lead? hlead) hascii]

theorem more_front_le (byte : UInt8) (rest : Bytes) : (front byte rest).more ≤ rest.length := by
  unfold front
  split
  · exact Nat.zero_le _
  · cases lead? byte with
    | none => exact Nat.zero_le _
    | some lead => simpa using more_continued_le lead.bits 0 lead.low lead.high lead.more rest

theorem front_of_ascii {byte : UInt8} (hascii : byte.toNat < 0x80) (rest : Bytes) :
    front byte rest = .scalar (charOf byte) 0 :=
  if_pos (UInt8.lt_iff_toNat_lt.mpr hascii)

theorem toNat_lt_of_shown {byte : UInt8} {rest : Bytes}
    (h : (front byte rest).shown.toNat < 0x80) : byte.toNat < 0x80 := by
  cases hfront : front byte rest with
  | broken more =>
      rw [hfront] at h
      exact absurd h (show ¬ '\ufffd'.toNat < 0x80 by decide)
  | scalar char more =>
      rw [hfront] at h
      have hascii : char.toNat < 0x80 := h
      have hvalue : (UInt8.ofNat char.toNat).toNat = char.toNat := toNat_ofNat (by omega)
      have hsingle := utf8EncodeChar_single (hvalue ▸ hascii)
      rw [hvalue, Char.ofNat_toNat, utf8EncodeChar_of_front hfront, List.cons.injEq] at hsingle
      rw [hsingle.1, hvalue]
      exact hascii

theorem toList_decodeLossy_append {ascii : UInt8} (hascii : ascii.toNat < 0x80)
    (left right : Bytes) :
    (decodeLossy (left ++ ascii :: right)).toList =
      (decodeLossy left).toList ++ charOf ascii :: (decodeLossy right).toList := by
  induction left using front_induction with
  | nil =>
      rw [List.nil_append, toList_decodeLossy_cons, front_of_ascii hascii]
      simp [Front.shown, Front.more]
  | cons byte rest ih =>
      rw [List.cons_append, toList_decodeLossy_cons, toList_decodeLossy_cons,
        front_append hascii, List.drop_append_of_le_length (more_front_le byte rest), ih,
        List.cons_append]

theorem exists_byte_of_ascii {bytes : Bytes} {char : Char}
    (h : char ∈ (decodeLossy bytes).toList) (hascii : char.toNat < 0x80) :
    ∃ byte ∈ bytes, char = charOf byte := by
  induction bytes using front_induction with
  | nil => simp at h
  | cons byte rest ih =>
      rw [toList_decodeLossy_cons, List.mem_cons] at h
      obtain rfl | h := h
      · have hbyte := toNat_lt_of_shown hascii
        rw [front_of_ascii hbyte]
        exact ⟨byte, List.mem_cons_self, rfl⟩
      · obtain ⟨found, hfound, hchar⟩ := ih h
        exact ⟨found, List.mem_cons_of_mem _ (List.mem_of_mem_drop hfound), hchar⟩

theorem ascii_decodeLossy_iff {bytes : Bytes} :
    (∀ char ∈ (decodeLossy bytes).toList, char.toNat < 0x80) ↔
      ∀ byte ∈ bytes, byte.toNat < 0x80 := by
  induction bytes using front_induction with
  | nil => simp
  | cons byte rest ih =>
      rw [toList_decodeLossy_cons, List.forall_mem_cons, List.forall_mem_cons]
      by_cases hascii : byte.toNat < 0x80
      · rw [front_of_ascii hascii] at ih ⊢
        exact and_congr (iff_of_true (toNat_charOf byte ▸ hascii) hascii) ih
      · refine iff_of_false (fun h => hascii (toNat_lt_of_shown h.1)) (fun h => hascii h.1)

theorem toList_decodeLossy_of_ascii {bytes : Bytes} (h : ∀ byte ∈ bytes, byte.toNat < 0x80) :
    (decodeLossy bytes).toList = bytes.map charOf := by
  induction bytes with
  | nil => simp
  | cons byte rest ih =>
      rw [List.forall_mem_cons] at h
      rw [toList_decodeLossy_cons, front_of_ascii h.1, List.map_cons]
      exact congrArg (charOf byte :: ·) (ih h.2)

theorem isEmpty_toList_decodeLossy (bytes : Bytes) :
    (decodeLossy bytes).toList.isEmpty = bytes.isEmpty := by
  cases bytes with
  | nil => simp
  | cons byte rest => simp [toList_decodeLossy_cons]

end MajiroScript.Text.Utf8
