import Mathlib.Data.Nat.Digits.Defs
import MajiroScript.Proofs.Calls

/-! A cursor that is called again and again.  It goes over its data from the front
without gaps, gives what it passes over, and stays where it is when a call asks
for more than is left.  Counting with words of 64 bits gives the same, because no
sum or difference leaves their range. -/
namespace MajiroScript

namespace Bytes

theorem toNatLE_eq_ofDigits (bytes : Bytes) :
    bytes.toNatLE = Nat.ofDigits 256 (bytes.map UInt8.toNat) := by
  induction bytes with
  | nil => rfl
  | cons byte bytes ih => rw [toNatLE, ih, List.map_cons, Nat.ofDigits_cons]

def shifted (bytes : Bytes) : UInt32 :=
  bytes.reverse.foldl (fun value byte => value <<< 8 ||| byte.toUInt32) 0

/-- A shift makes room for one byte, so that nothing overlaps. -/
theorem toNat_shiftLeft_or (value : UInt32) (byte : UInt8) :
    (value <<< 8 ||| byte.toUInt32).toNat = (byte.toNat + 256 * value.toNat) % 2 ^ 32 := by
  have hbyte : byte.toNat < 2 ^ 8 := byte.toNat_lt
  have hroom : (value <<< 8).toNat = 2 ^ 8 * (value.toNat % 2 ^ 24) := by
    rw [UInt32.toNat_shiftLeft, Nat.shiftLeft_eq]
    simp only [UInt32.reduceToNat, Nat.reducePow, Nat.reduceMod]
    omega
  rw [UInt32.toNat_or, hroom, UInt8.toNat_toUInt32, ← Nat.two_pow_add_eq_or_of_lt hbyte]
  omega

theorem shifted_eq (bytes : Bytes) : bytes.shifted = bytes.toNatLE.toUInt32 := by
  rw [shifted, List.foldl_reverse]
  induction bytes with
  | nil => rfl
  | cons byte bytes ih =>
      apply UInt32.toNat_inj.mp
      rw [List.foldr_cons, ih, toNat_shiftLeft_or]
      simp only [toNatLE, Nat.toUInt32_eq, UInt32.toNat_ofNat', Nat.reducePow]
      omega

end Bytes

namespace Cursor

inductive Call where
  | take (count : UInt64)
  | word
  | number (width : Nat) (fits : 1 ≤ width ∧ width ≤ 4)

inductive Reply where
  | bytes (bytes : Bytes)
  | number (value : Nat)
  deriving DecidableEq, Repr

def Call.count : Call → Nat
  | take count => count.toNat
  | word => 2
  | number width _ => width

def Call.reply (call : Call) (bytes : Bytes) : Reply :=
  match call with
  | take _ => .bytes bytes
  | word | number _ _ => .number (Nat.ofDigits 256 (bytes.map UInt8.toNat))

def perform (cursor : Cursor) : Call → Option (Reply × Cursor)
  | .take count => (cursor.take? count.toNat).map fun (bytes, next) => (.bytes bytes, next)
  | .word => cursor.readUInt16?.map fun (value, next) => (.number value.toNat, next)
  | .number width _ => (cursor.readUInt? width).map fun (value, next) => (.number value.toNat, next)

def after (cursor : Cursor) (call : Call) : Cursor :=
  ((cursor.perform call).map Prod.snd).getD cursor

def through (cursor : Cursor) (calls : List Call) : Cursor :=
  calls.foldl after cursor

/-- The parts of the data that the calls which succeed pass over. -/
def ranges (data : Bytes) (cursor : Cursor) : List Call → List Bytes
  | [] => []
  | call :: calls =>
      let next := cursor.after call
      let others := ranges data next calls
      if (cursor.perform call).isSome then
        (data.take next.position).drop cursor.position :: others
      else
        others

theorem perform_eq (cursor : Cursor) (call : Call) :
    cursor.perform call =
      (cursor.take? call.count).map fun (bytes, next) => (call.reply bytes, next) := by
  cases call with
  | take count => rfl
  | word =>
      rw [perform, readUInt16?, Option.map_map]
      apply Option.map_congr
      rintro ⟨bytes, next⟩ htake
      have hlength := (take?_eq_some_iff_advances.mp htake).1
      simp only [Function.comp_apply, Call.reply, ← Bytes.toNatLE_eq_ofDigits,
        Bytes.toNat_toUInt16_toNatLE (Nat.le_of_eq hlength)]
  | number width fits =>
      rw [perform, readUInt?, Option.map_map]
      apply Option.map_congr
      rintro ⟨bytes, next⟩ htake
      have hlength := (take?_eq_some_iff_advances.mp htake).1
      simp only [Function.comp_apply, Call.reply, ← Bytes.toNatLE_eq_ofDigits,
        Bytes.toNat_toUInt32_toNatLE (hlength ▸ fits.2)]

theorem perform_eq_none_iff {cursor : Cursor} {call : Call} :
    cursor.perform call = none ↔ cursor.remaining < call.count := by
  rw [perform_eq, Option.map_eq_none_iff, take?_eq_none_iff]

theorem perform_eq_some_iff {cursor next : Cursor} {call : Call} {reply : Reply} :
    cursor.perform call = some (reply, next) ↔
      call.count ≤ cursor.remaining ∧ reply = call.reply (cursor.rest.take call.count) ∧
        next = ⟨cursor.position + call.count, cursor.rest.drop call.count⟩ := by
  simp only [perform_eq, Option.map_eq_some_iff, Prod.exists, Prod.mk.injEq, take?_eq_some_iff]
  constructor
  · rintro ⟨_, _, ⟨hcount, rfl, rfl⟩, rfl, rfl⟩
    exact ⟨hcount, rfl, rfl⟩
  · rintro ⟨hcount, rfl, rfl⟩
    exact ⟨_, _, ⟨hcount, rfl, rfl⟩, rfl, rfl⟩

theorem after_of_none {cursor : Cursor} {call : Call} (h : cursor.perform call = none) :
    cursor.after call = cursor := by
  rw [after, h]
  rfl

theorem after_of_some {cursor next : Cursor} {call : Call} {reply : Reply}
    (h : cursor.perform call = some (reply, next)) : cursor.after call = next := by
  rw [after, h]
  rfl

theorem reaches_after (cursor : Cursor) (call : Call) : cursor.Reaches (cursor.after call) := by
  cases hperform : cursor.perform call with
  | none =>
      rw [after_of_none hperform]
      exact cursor.reaches_refl
  | some given =>
      obtain ⟨reply, next⟩ := given
      rw [after_of_some hperform]
      rw [perform_eq] at hperform
      obtain ⟨⟨bytes, next⟩, htake, heq⟩ := Option.map_eq_some_iff.mp hperform
      cases heq
      exact reaches_of_take? htake

theorem reaches_through (cursor : Cursor) (calls : List Call) :
    cursor.Reaches (cursor.through calls) := by
  induction calls generalizing cursor with
  | nil => exact cursor.reaches_refl
  | cons call calls ih => exact (cursor.reaches_after call).trans (ih _)

theorem Reaches.position_le {cursor after : Cursor} (h : cursor.Reaches after) :
    cursor.position ≤ after.position := by
  obtain ⟨bytes, -, hposition⟩ := h
  exact Nat.le.intro hposition.symm

theorem take_append_ranges (data : Bytes) (cursor : Cursor) (calls : List Call) :
    data.take cursor.position ++ (ranges data cursor calls).flatten =
      data.take (cursor.through calls).position := by
  induction calls generalizing cursor with
  | nil => simp [ranges, through]
  | cons call calls ih =>
      rw [ranges, show cursor.through (call :: calls) = (cursor.after call).through calls from rfl,
        ← ih]
      split
      · have hforward := (cursor.reaches_after call).position_le
        have hfront : (data.take (cursor.after call).position).take cursor.position =
            data.take cursor.position := by
          rw [List.take_take, Nat.min_eq_left hforward]
        rw [List.flatten_cons, ← List.append_assoc, ← hfront, List.take_append_drop]
      · rename_i hnothing
        rw [after_of_none (by simpa using hnothing)]

/-- A cursor that keeps all of its data and counts with words of 64 bits. -/
structure Indexed where
  data : Bytes
  position : UInt64

namespace Indexed

def remaining (cursor : Indexed) : UInt64 :=
  cursor.data.length.toUInt64 - cursor.position

def take? (cursor : Indexed) (count : UInt64) : Option (Bytes × Indexed) :=
  if cursor.remaining < count then none
  else
    let stop := cursor.position + count
    some ((cursor.data.take stop.toNat).drop cursor.position.toNat, { cursor with position := stop })

def perform (cursor : Indexed) : Call → Option (Reply × Indexed)
  | .take count => (cursor.take? count).map fun (bytes, next) => (.bytes bytes, next)
  | .word => (cursor.take? 2).map fun (bytes, next) =>
      (.number bytes.toNatLE.toUInt16.toNat, next)
  | .number width _ => (cursor.take? width.toUInt64).map fun (bytes, next) =>
      (.number bytes.shifted.toNat, next)

def after (cursor : Indexed) (call : Call) : Indexed :=
  ((cursor.perform call).map Prod.snd).getD cursor

def through (cursor : Indexed) (calls : List Call) : Indexed :=
  calls.foldl after cursor

def ofCursor (data : Bytes) (cursor : Cursor) : Indexed :=
  ⟨data, cursor.position.toUInt64⟩

theorem toNat_toUInt64 {value : Nat} (h : value < 2 ^ 64) : value.toUInt64.toNat = value := by
  rw [Nat.toUInt64_eq]
  exact UInt64.toNat_ofNat_of_lt' h

section

variable {data : Bytes} {cursor : Cursor} (hsize : data.length < 2 ^ 64)
  (hreaches : (ofBytes data).Reaches cursor)

include hsize hreaches

theorem toNat_position_ofCursor : (ofCursor data cursor).position.toNat = cursor.position :=
  toNat_toUInt64 (Nat.lt_of_le_of_lt hreaches.of_ofBytes.1 hsize)

theorem toNat_remaining_ofCursor : (ofCursor data cursor).remaining.toNat = cursor.remaining := by
  -- The position is at most the length, so that their difference does not wrap.
  have hposition := toNat_position_ofCursor hsize hreaches
  have hlength : data.length.toUInt64.toNat = data.length := toNat_toUInt64 hsize
  have htotal : cursor.position + cursor.remaining = data.length :=
    hreaches.position_add_remaining.trans (Nat.zero_add _)
  change (data.length.toUInt64 - (ofCursor data cursor).position).toNat = _
  rw [UInt64.toNat_sub_of_le _ _ (UInt64.le_iff_toNat_le.mpr (by omega))]
  omega

theorem take?_ofCursor (count : UInt64) :
    (ofCursor data cursor).take? count =
      (cursor.take? count.toNat).map fun (bytes, next) => (bytes, ofCursor data next) := by
  -- A range that is taken ends in the data, so that its end does not wrap.
  have hremaining := toNat_remaining_ofCursor hsize hreaches
  have hposition := toNat_position_ofCursor hsize hreaches
  have htotal : cursor.position + cursor.remaining = data.length :=
    hreaches.position_add_remaining.trans (Nat.zero_add _)
  rw [take?]
  split
  · rename_i hshort
    rw [UInt64.lt_iff_toNat_lt, hremaining] at hshort
    rw [take?_eq_none_iff.mpr hshort]
    rfl
  · rename_i henough
    rw [UInt64.lt_iff_toNat_lt, hremaining] at henough
    have hstop : ((ofCursor data cursor).position + count).toNat =
        cursor.position + count.toNat := by
      rw [UInt64.toNat_add, hposition]
      exact Nat.mod_eq_of_lt (by omega)
    have hrange : (data.take (cursor.position + count.toNat)).drop cursor.position =
        cursor.rest.take count.toNat := by
      rw [hreaches.of_ofBytes.2, List.drop_take, Nat.add_sub_cancel_left]
    have hnext : (cursor.position + count.toNat).toUInt64 =
        (ofCursor data cursor).position + count := by
      apply UInt64.toNat_inj.mp
      rw [hstop]
      exact toNat_toUInt64 (by omega)
    have htake : cursor.take? count.toNat = some (cursor.rest.take count.toNat,
        ⟨cursor.position + count.toNat, cursor.rest.drop count.toNat⟩) :=
      take?_eq_some_iff.mpr ⟨Nat.not_lt.mp henough, rfl, rfl⟩
    rw [htake, Option.map_some]
    dsimp only
    rw [hstop, hposition]
    change some ((data.take _).drop _, Indexed.mk data _) = some (_, Indexed.mk data _)
    rw [hrange, hnext]

theorem perform_ofCursor (call : Call) :
    (ofCursor data cursor).perform call =
      (cursor.perform call).map fun (reply, next) => (reply, ofCursor data next) := by
  cases call with
  | take count =>
      rw [perform, Cursor.perform, take?_ofCursor hsize hreaches, Option.map_map, Option.map_map]
      rfl
  | word =>
      rw [perform, Cursor.perform, take?_ofCursor hsize hreaches, readUInt16?, Option.map_map,
        Option.map_map, Option.map_map]
      rfl
  | number width fits =>
      have hwidth : width.toUInt64.toNat = width := toNat_toUInt64 (by omega)
      rw [perform, Cursor.perform, take?_ofCursor hsize hreaches, hwidth, readUInt?,
        Option.map_map, Option.map_map, Option.map_map]
      simp only [Function.comp_def, Bytes.shifted_eq]

theorem after_ofCursor (call : Call) :
    (ofCursor data cursor).after call = ofCursor data (cursor.after call) := by
  rw [after, Cursor.after, perform_ofCursor hsize hreaches]
  cases cursor.perform call with
  | none => rfl
  | some given => rfl

theorem through_ofCursor (calls : List Call) :
    (ofCursor data cursor).through calls = ofCursor data (cursor.through calls) := by
  induction calls generalizing cursor with
  | nil => rfl
  | cons call calls ih =>
      have hnext := hreaches.trans (cursor.reaches_after call)
      rw [through, List.foldl_cons, after_ofCursor hsize hreaches]
      exact ih hnext

end

end Indexed

/-- What holds of the cursor that calls have led to from the front of the data,
whatever it is called for next. -/
structure Disciplined (data : Bytes) (calls : List Call) (cursor : Cursor) : Prop where
  inside : cursor.position ≤ data.length
  total : cursor.position + cursor.remaining = data.length
  ranges_eq : (ranges data (ofBytes data) calls).flatten = data.take cursor.position
  fails_iff : ∀ call, cursor.perform call = none ↔ cursor.remaining < call.count
  stays : ∀ call, cursor.perform call = none → cursor.after call = cursor
  gives : ∀ call reply next, cursor.perform call = some (reply, next) →
    cursor.after call = next ∧ next.position = cursor.position + call.count ∧
      reply = call.reply ((data.drop cursor.position).take call.count)
  word_eq : cursor.perform .word = cursor.perform (.number 2 (by decide))
  indexed : data.length < 2 ^ 64 →
    (Indexed.through ⟨data, 0⟩ calls).position.toNat = cursor.position ∧
      ∀ call, ((Indexed.through ⟨data, 0⟩ calls).perform call).map Prod.fst =
        (cursor.perform call).map Prod.fst

theorem disciplined (data : Bytes) (calls : List Call) :
    Disciplined data calls ((ofBytes data).through calls) := by
  have hreaches := (ofBytes data).reaches_through calls
  obtain ⟨hinside, hrest⟩ := hreaches.of_ofBytes
  exact
    { inside := hinside
      total := hreaches.position_add_remaining.trans (Nat.zero_add _)
      ranges_eq := take_append_ranges data (ofBytes data) calls
      fails_iff := fun _ => perform_eq_none_iff
      stays := fun _ => after_of_none
      gives := by
        intro call reply next h
        obtain ⟨-, hreply, hnext⟩ := perform_eq_some_iff.mp h
        refine ⟨after_of_some h, ?_, ?_⟩
        · rw [hnext]
        · rw [hreply, hrest]
      word_eq := by
        rw [perform_eq, perform_eq]
        rfl
      indexed := by
        intro hsize
        have hthrough : Indexed.through ⟨data, 0⟩ calls =
            .ofCursor data ((ofBytes data).through calls) :=
          Indexed.through_ofCursor hsize (ofBytes data).reaches_refl calls
        rw [hthrough]
        refine ⟨Indexed.toNat_position_ofCursor hsize hreaches, ?_⟩
        intro call
        rw [Indexed.perform_ofCursor hsize hreaches, Option.map_map]
        rfl }

-- A call for more than can be there does no harm to the calls behind it.
example :
    let calls := [.take 1, .take 0xFFFFFFFFFFFFFFFF, .word]
    (ofBytes [1, 2, 3, 4]).through calls = ⟨3, [4]⟩ ∧
      ranges [1, 2, 3, 4] (ofBytes [1, 2, 3, 4]) calls = [[1], [2, 3]] ∧
      (Indexed.through ⟨[1, 2, 3, 4], 0⟩ calls).position = 3 := by
  decide +kernel

end Cursor

end MajiroScript
