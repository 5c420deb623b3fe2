import MajiroScript.Bytes

/-! A forward-only cursor over a byte string.  Every read either takes all the
bytes it asks for or leaves the cursor where it was. -/
namespace MajiroScript

structure Cursor where
  position : Nat
  rest : Bytes
  deriving DecidableEq, Repr

namespace Cursor

def ofBytes (bytes : Bytes) : Cursor :=
  ⟨0, bytes⟩

def remaining (cursor : Cursor) : Nat :=
  cursor.rest.length

def take? (cursor : Cursor) (count : Nat) : Option (Bytes × Cursor) :=
  let taken := cursor.rest.take count
  if taken.length = count then
    some (taken, ⟨cursor.position + count, cursor.rest.drop count⟩)
  else
    none

/-- A little-endian number of `width` bytes, kept modulo `2 ^ 32`. -/
def readUInt? (cursor : Cursor) (width : Nat) : Option (UInt32 × Cursor) :=
  (cursor.take? width).map fun (bytes, after) => (bytes.toNatLE.toUInt32, after)

def readUInt16? (cursor : Cursor) : Option (UInt16 × Cursor) :=
  (cursor.take? 2).map fun (bytes, after) => (bytes.toNatLE.toUInt16, after)

def readUInts? (cursor : Cursor) : List UInt16 → Option (List UInt32 × Cursor)
  | [] => some ([], cursor)
  | width :: widths => do
      let (value, next) ← cursor.readUInt? width.toNat
      let (values, after) ← next.readUInts? widths
      pure (value :: values, after)

theorem take?_eq_some_iff {cursor after : Cursor} {count : Nat} {bytes : Bytes} :
    cursor.take? count = some (bytes, after) ↔
      count ≤ cursor.remaining ∧ bytes = cursor.rest.take count ∧
        after = ⟨cursor.position + count, cursor.rest.drop count⟩ := by
  simp only [take?, remaining, List.length_take, Option.ite_none_right_eq_some,
    Option.some.injEq, Prod.mk.injEq]
  constructor
  · rintro ⟨hlength, hbytes, hafter⟩
    exact ⟨by omega, hbytes.symm, hafter.symm⟩
  · rintro ⟨hlength, hbytes, hafter⟩
    exact ⟨by omega, hbytes.symm, hafter.symm⟩

theorem take?_eq_none_iff {cursor : Cursor} {count : Nat} :
    cursor.take? count = none ↔ cursor.remaining < count := by
  simp only [take?, remaining, List.length_take, ite_eq_right_iff, reduceCtorEq,
    imp_false]
  omega

theorem remaining_of_take? {cursor after : Cursor} {count : Nat} {bytes : Bytes}
    (h : cursor.take? count = some (bytes, after)) :
    after.remaining + count = cursor.remaining := by
  obtain ⟨hcount, -, rfl⟩ := take?_eq_some_iff.mp h
  simp only [remaining, List.length_drop] at hcount ⊢
  omega

theorem remaining_of_readUInt? {cursor after : Cursor} {width : Nat} {value : UInt32}
    (h : cursor.readUInt? width = some (value, after)) :
    after.remaining + width = cursor.remaining := by
  obtain ⟨⟨bytes, next⟩, htake, heq⟩ := Option.map_eq_some_iff.mp h
  obtain ⟨-, rfl⟩ := Prod.mk.injEq .. ▸ heq
  exact remaining_of_take? htake

theorem remaining_of_readUInt16? {cursor after : Cursor} {value : UInt16}
    (h : cursor.readUInt16? = some (value, after)) :
    after.remaining + 2 = cursor.remaining := by
  obtain ⟨⟨bytes, next⟩, htake, heq⟩ := Option.map_eq_some_iff.mp h
  obtain ⟨-, rfl⟩ := Prod.mk.injEq .. ▸ heq
  exact remaining_of_take? htake

theorem remaining_of_readUInts? {cursor after : Cursor} {widths : List UInt16}
    {values : List UInt32} (h : cursor.readUInts? widths = some (values, after)) :
    after.remaining + widths.foldr (fun width total => width.toNat + total) 0 =
      cursor.remaining := by
  induction widths generalizing cursor values with
  | nil =>
      simp only [readUInts?, Option.some.injEq, Prod.mk.injEq] at h
      simp [h.2]
  | cons width widths ih =>
      simp only [readUInts?, Option.bind_eq_bind, Option.bind_eq_some_iff,
        Option.pure_def, Option.some.injEq, Prod.mk.injEq, Prod.exists] at h
      obtain ⟨value, next, hvalue, values, last, hvalues, -, rfl⟩ := h
      have hfirst := remaining_of_readUInt? hvalue
      have hrest := ih hvalues
      rw [List.foldr_cons]
      omega

end Cursor

end MajiroScript
