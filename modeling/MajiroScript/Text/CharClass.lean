/-! Sets of characters as ranges of code points, in ascending order and with a
gap between neighbours. -/
namespace MajiroScript.Text

structure CharClass where
  ranges : List (Nat × Nat) := []
  deriving DecidableEq, Hashable, Repr

namespace CharClass

def contains (set : CharClass) (char : Char) : Bool :=
  set.ranges.any fun (first, last) => first ≤ char.toNat && char.toNat ≤ last

def isEmpty (set : CharClass) : Bool :=
  set.ranges.isEmpty

def isAscii (set : CharClass) : Bool :=
  set.ranges.all fun (_, last) => last < 0x80

/-- Adds a range.  It takes in the ranges that it overlaps or touches. -/
def insertRange (range : Nat × Nat) : List (Nat × Nat) → List (Nat × Nat)
  | [] => [range]
  | next :: rest =>
      if range.2 + 1 < next.1 then range :: next :: rest
      else if next.2 + 1 < range.1 then next :: insertRange range rest
      else insertRange (min range.1 next.1, max range.2 next.2) rest

def insert (set : CharClass) (first last : Nat) : CharClass :=
  ⟨insertRange (first, last) set.ranges⟩

def ofChar (char : Char) : CharClass :=
  ⟨[(char.toNat, char.toNat)]⟩

/-- The code point before one, without those that are kept for surrogates. -/
def previous (code : Nat) : Nat :=
  if code = 0xE000 then 0xD7FF else code - 1

def next (code : Nat) : Nat :=
  if code = 0xD7FF then 0xE000 else code + 1

/-- What is left open behind a code point.  Between two ranges that only the
surrogates divide, the gap is taken from the one end to the other. -/
def gapsBehind (code : Nat) : List (Nat × Nat) → List (Nat × Nat)
  | [] => if code < 0x10FFFF then [(next code, 0x10FFFF)] else []
  | (first, last) :: rest =>
      (min (next code) (previous first), max (next code) (previous first)) :: gapsBehind last rest

def complement (set : CharClass) : CharClass :=
  match set.ranges with
  | [] => ⟨[(0, 0x10FFFF)]⟩
  | (first, last) :: rest =>
      ⟨(if 0 < first then [(0, previous first)] else []) ++ gapsBehind last rest⟩

def union (left right : CharClass) : CharClass :=
  right.ranges.foldl (fun set (first, last) => set.insert first last) left

def intersection (left right : CharClass) : CharClass :=
  ⟨left.ranges.flatMap fun (first, last) => right.ranges.filterMap fun (low, high) =>
    if max first low ≤ min last high then some (max first low, min last high) else none⟩

def rangeWithout (range other : Nat × Nat) : List (Nat × Nat) :=
  if other.2 < range.1 || range.2 < other.1 then [range]
  else
    (if range.1 < other.1 then [(range.1, previous other.1)] else []) ++
      (if other.2 < range.2 then [(next other.2, range.2)] else [])

def difference (left right : CharClass) : CharClass :=
  ⟨right.ranges.foldl (fun ranges other => ranges.flatMap (rangeWithout · other)) left.ranges⟩

def symmetricDifference (left right : CharClass) : CharClass :=
  (left.union right).difference (left.intersection right)

def withCases (set : CharClass) : CharClass :=
  let lower := (set.intersection ⟨[(0x61, 0x7A)]⟩).ranges.map fun (a, z) => (a - 32, z - 32)
  let upper := (set.intersection ⟨[(0x41, 0x5A)]⟩).ranges.map fun (a, z) => (a + 32, z + 32)
  (set.union ⟨lower⟩).union ⟨upper⟩

end CharClass

end MajiroScript.Text
