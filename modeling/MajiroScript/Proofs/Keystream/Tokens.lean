import MajiroScript.Proofs.Keystream.Numerals
import MajiroScript.Proofs.Pieces

/-! What the text of a key gives.  Every maximal run of characters between
separators gives one byte, and all the ways to write a key give this key. -/
namespace MajiroScript.Keystream

/-- Tokens whose byte is not the low byte of the number they are.  The value has
too many bits, or there is a sign, so that they are no number. -/
inductive Misread (token : List Char) : Prop where
  | large {value : Nat} (numeral : Numeral token value) (large : 2 ^ 64 ≤ value)
      (shows : value % 256 ≠ 0)
  | signed {digits : List Char} {value : Nat} (sign : token = '+' :: digits)
      (numeral : Numeral digits value) (fits : value < 2 ^ 64) (shows : value % 256 ≠ 0)

theorem misread_of_numeral {token : List Char} {value : Nat} (h : Numeral token value) :
    Misread token ↔ 2 ^ 64 ≤ value ∧ value % 256 ≠ 0 := by
  constructor
  · rintro (⟨hother, hlarge, hshows⟩ | ⟨rfl, -⟩)
    · rw [h.unique hother]
      exact ⟨hlarge, hshows⟩
    · exact absurd h (not_numeral_signed _ _)
  · rintro ⟨hlarge, hshows⟩
    exact .large h hlarge hshows

theorem misread_of_no_numeral {token : List Char} (h : ∀ value, ¬ Numeral token value) :
    Misread token ↔ ∃ value, Readable token value ∧ value % 256 ≠ 0 := by
  constructor
  · rintro (⟨hnumeral, -⟩ | ⟨hsign, hnumeral, hfits, hshows⟩)
    · exact absurd hnumeral (h _)
    · exact ⟨_, ⟨hfits, .inr ⟨_, hsign, hnumeral⟩⟩, hshows⟩
  · rintro ⟨value, ⟨hfits, hnumeral | ⟨digits, hsign, hnumeral⟩⟩, hshows⟩
    · exact absurd hnumeral (h value)
    · exact .signed hsign hnumeral hfits hshows

theorem lowByte_numeral_tokenByte_iff {token : List Char} (hsome : token ≠ []) :
    LowByte (Numeral token) (tokenByte token) ↔ ¬ Misread token := by
  by_cases hnumeral : ∃ value, Numeral token value
  · obtain ⟨value, hvalue⟩ := hnumeral
    rw [lowByte_of_reads Numeral.unique hvalue, misread_of_numeral hvalue]
    by_cases hfits : value < 2 ^ 64
    · rw [tokenByte_of_readable (hvalue.readable_iff.mpr ⟨rfl, hfits⟩), eq_self_iff_true, true_iff]
      omega
    · have hunreadable : ∀ other, ¬ Readable token other :=
        fun other hother => hfits (hvalue.readable_iff.mp hother).2
      rw [tokenByte_of_unreadable hsome hunreadable, eq_comm, toUInt8_eq_zero_iff]
      omega
  · rw [not_exists] at hnumeral
    rw [lowByte_of_unread hnumeral, misread_of_no_numeral hnumeral, tokenByte_eq_zero_iff hsome]
    simp only [not_exists, not_and, not_not]

theorem toBytes_parse (text : String) : (parse text).toBytes = (tokens text).map tokenByte :=
  toBytes_ofBytes _

theorem forall₂_toBytes_parse {Gives : List Char → UInt8 → Prop} {text : String} :
    List.Forall₂ Gives (tokens text) (parse text).toBytes ↔
      ∀ token ∈ tokens text, Gives token (tokenByte token) := by
  rw [toBytes_parse, List.forall₂_map_right_iff, List.forall₂_same]

/-- A key has one byte for each maximal run of characters that are no separators,
in the order of the runs.  This is the byte of a number of up to 64 bits, which
may have a plus sign, and else zero.  So the bytes are those of the numbers, and
zero for everything else, exactly if no token is misread. -/
theorem parse_eq_documented_iff (text : String) :
    AreRuns isSeparator text.toList (tokens text) ∧
      List.Forall₂ (fun token => LowByte (Readable token)) (tokens text) (parse text).toBytes ∧
      (List.Forall₂ (fun token => LowByte (Numeral token)) (tokens text) (parse text).toBytes ↔
        ∀ token ∈ tokens text, ¬ Misread token) := by
  refine ⟨areRuns_pieces isSeparator text.toList, ?_, ?_⟩
  · rw [forall₂_toBytes_parse]
    intro token htoken
    exact lowByte_tokenByte (ne_nil_of_mem_pieces htoken)
  · rw [forall₂_toBytes_parse]
    refine forall₂_congr fun token htoken => ?_
    exact lowByte_numeral_tokenByte_iff (ne_nil_of_mem_pieces htoken)

theorem parse_ne_documented :
    (parse "10000000000000001 +1").toBytes = [0, 1] ∧
      List.Forall₂ (fun token => LowByte (Numeral token)) (tokens "10000000000000001 +1") [1, 0] ∧
      ¬ List.Forall₂ (fun token => LowByte (Numeral token)) (tokens "10000000000000001 +1")
        (parse "10000000000000001 +1").toBytes := by
  have htokens : tokens "10000000000000001 +1" =
      ['1' :: List.replicate 15 '0' ++ ['1'], ['+', '1']] := by
    decide +kernel
  have hbytes : (parse "10000000000000001 +1").toBytes = [0, 1] := by
    decide +kernel
  have hlarge : Numeral ('1' :: List.replicate 15 '0' ++ ['1']) (2 ^ 64 + 1) :=
    ⟨by simp, 1 :: List.replicate 15 0 ++ [1], by decide, by decide⟩
  have hsigned : ∀ value, ¬ Numeral ['+', '1'] value := not_numeral_signed ['1']
  rw [htokens, hbytes]
  have hone : LowByte (Numeral ('1' :: List.replicate 15 '0' ++ ['1'])) 1 :=
    (lowByte_of_reads Numeral.unique hlarge).mpr (by decide)
  refine ⟨rfl, .cons hone (.cons (.zero hsigned) .nil), ?_⟩
  rintro (_ | ⟨-, _ | ⟨hread, -⟩⟩)
  exact absurd ((lowByte_of_unread hsigned).mp hread) (by decide)

theorem isSeparator_of_digit? {char : Char} {digit : Nat} (h : digit? char = some digit) :
    isSeparator char = false := by
  by_contra hseparator
  simp only [isSeparator, Bool.not_eq_false, Bool.or_eq_true, decide_eq_true_eq] at hseparator
  obtain (rfl | rfl) | rfl := hseparator
  · contradiction
  · contradiction
  · contradiction

def WritesByte (token : List Char) (byte : UInt8) : Prop :=
  token.length ≤ 16 ∧ ∃ value, Numeral token value ∧ value % 256 = byte.toNat

theorem WritesByte.tokenByte_eq {token : List Char} {byte : UInt8} (h : WritesByte token byte) :
    tokenByte token = byte := by
  obtain ⟨hlength, value, hvalue, hbyte⟩ := h
  have hfits : value < 2 ^ 64 :=
    calc value < 16 ^ token.length := hvalue.lt_pow
      _ ≤ 16 ^ 16 := Nat.pow_le_pow_right (by decide) hlength
      _ = 2 ^ 64 := by decide
  rw [tokenByte_of_readable ⟨hfits, .inl hvalue⟩, ← UInt8.toNat_inj]
  simpa using hbyte

theorem map_tokenByte_of_writes {written : List (List Char)} {bytes : Bytes}
    (h : List.Forall₂ WritesByte written bytes) : written.map tokenByte = bytes := by
  induction h with
  | nil => rfl
  | cons hfirst _ ih => rw [List.map_cons, hfirst.tokenByte_eq, ih]

theorem run_of_writes {written : List (List Char)} {bytes : Bytes}
    (h : List.Forall₂ WritesByte written bytes) :
    ∀ token ∈ written, token ≠ [] ∧ ∀ char ∈ token, isSeparator char = false := by
  induction h with
  | nil => simp
  | cons hfirst _ ih =>
      obtain ⟨-, value, hvalue, -⟩ := hfirst
      refine List.forall_mem_cons.mpr ⟨⟨hvalue.1, fun char hchar => ?_⟩, ih⟩
      obtain ⟨digit, hdigit⟩ := hvalue.exists_digit char hchar
      exact isSeparator_of_digit? hdigit

theorem toBytes_parse_append (left right : String) {separator : Char}
    (hseparator : isSeparator separator) :
    (parse (left ++ String.singleton separator ++ right)).toBytes =
      (parse left).toBytes ++ (parse right).toBytes := by
  simp only [toBytes_parse, tokens, String.toList_append, String.toList_singleton,
    List.append_assoc, List.singleton_append, pieces_append_separator hseparator, List.map_append]

/-- A key can be written with digits of either case, with leading zeros and higher
digits up to sixteen, and with any separators between, before and behind the
tokens.  All of this is read as the same key.  Texts with a separator between
them are read one after the other. -/
theorem parse_of_written :
    (∀ (bytes : Bytes) (written : List (List Char)) (before joined after : List Char),
      List.Forall₂ WritesByte written bytes → Joined isSeparator written joined →
      (∀ char ∈ before, isSeparator char) → (∀ char ∈ after, isSeparator char) →
      (parse (String.ofList (before ++ joined ++ after))).toBytes = bytes) ∧
    ∀ (left right : String) (separator : Char), isSeparator separator →
      (parse (left ++ String.singleton separator ++ right)).toBytes =
        (parse left).toBytes ++ (parse right).toBytes := by
  refine ⟨?_, fun left right _ hseparator => toBytes_parse_append left right hseparator⟩
  intro bytes written before joined after hwritten hjoined hbefore hafter
  have htokens : tokens (String.ofList (before ++ joined ++ after)) = written := by
    rw [tokens, String.toList_ofList, pieces_append_separators hafter,
      pieces_separators_append hbefore, hjoined.pieces_eq (run_of_writes hwritten)]
  rw [toBytes_parse, htokens, map_tokenByte_of_writes hwritten]

theorem parse_of_written_wide :
    (parse "\r\n17 \n1fF\r00000000000000a0\n").toBytes = [0x17, 0xFF, 0xA0] ∧
      (parse ("17 zz" ++ String.singleton '\r' ++ "\n2a")).toBytes = [0x17, 0] ++ [0x2A] := by
  constructor
  · have hwritten : List.Forall₂ WritesByte
        [['1', '7'], ['1', 'f', 'F'], List.replicate 14 '0' ++ ['a', '0']] [0x17, 0xFF, 0xA0] :=
      .cons ⟨by decide, 0x17, ⟨by decide, [1, 7], by decide, by decide⟩, by decide⟩
        (.cons ⟨by decide, 0x1FF, ⟨by decide, [1, 15, 15], by decide, by decide⟩, by decide⟩
          (.cons ⟨by decide, 0xA0, ⟨by decide, List.replicate 14 0 ++ [10, 0], by decide,
            by decide⟩, by decide⟩ .nil))
    have hjoined : Joined isSeparator
        [['1', '7'], ['1', 'f', 'F'], List.replicate 14 '0' ++ ['a', '0']]
        (['1', '7'] ++ ([' ', '\n'] ++ (['1', 'f', 'F'] ++ (['\r'] ++
          (List.replicate 14 '0' ++ ['a', '0']))))) :=
      .cons _ (by simp) (by simp [isSeparator]) (.cons _ (by simp) (by simp [isSeparator])
        (.single _))
    have htext : "\r\n17 \n1fF\r00000000000000a0\n" = String.ofList (['\r', '\n'] ++
        (['1', '7'] ++ ([' ', '\n'] ++ (['1', 'f', 'F'] ++ (['\r'] ++
          (List.replicate 14 '0' ++ ['a', '0']))))) ++ ['\n']) := by
      decide +kernel
    rw [htext]
    exact parse_of_written.1 _ _ _ _ _ hwritten hjoined (by simp [isSeparator])
      (by simp [isSeparator])
  · rw [parse_of_written.2 "17 zz" "\n2a" '\r' (by decide)]
    decide +kernel

end MajiroScript.Keystream
