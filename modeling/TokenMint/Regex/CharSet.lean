import TokenMint.Text.CaseFold

/-!
# Sets of characters

A set is the list of its ranges of code points, from the lowest up, with a gap between each two. A
set has one such list, so that sets can be compared and their size be read off, and every operation
keeps the form. Complement and intersection are differences.
-/

set_option autoImplicit false
set_option relaxedAutoImplicit false

namespace TokenMint.Regex

/-- A set of characters. -/
structure CharSet where
  /-- The inclusive ranges of code points. -/
  ranges : List (Nat × Nat)
  deriving DecidableEq

/-- The highest code point. -/
def lastCode : Nat :=
  0x10ffff

/-- Puts a range into a list of ranges and joins it with those that it meets. -/
def insertRange (low high : Nat) : List (Nat × Nat) → List (Nat × Nat)
  | [] => [(low, high)]
  | range :: rest =>
    if high + 1 < range.1 then (low, high) :: range :: rest
    else if range.2 + 1 < low then range :: insertRange low high rest
    else insertRange (min low range.1) (max high range.2) rest

/-- The parts of a range below and above another one. -/
def outsideRange (low high : Nat) (range : Nat × Nat) : List (Nat × Nat) :=
  (if range.1 < low then [(range.1, min range.2 (low - 1))] else []) ++
    (if high < range.2 then [(max range.1 (high + 1), range.2)] else [])

namespace CharSet

/-- Whether a code point is in the set. -/
def hasCode (set : CharSet) (code : Nat) : Bool :=
  set.ranges.any fun range ↦ range.1 ≤ code && code ≤ range.2

/-- Whether a character is in the set. -/
def contains (set : CharSet) (c : Char) : Bool :=
  set.hasCode c.toNat

/-- The set without members. -/
def none : CharSet :=
  ⟨[]⟩

/-- The set of all characters. -/
def all : CharSet :=
  ⟨[(0, lastCode)]⟩

/-- The set of one character. -/
def single (c : Char) : CharSet :=
  ⟨[(c.toNat, c.toNat)]⟩

/-- The one code point of a set, if the set has just one. -/
def only? (set : CharSet) : Option Nat :=
  match set.ranges with
  | [(low, high)] => if low = high then some low else Option.none
  | _ => Option.none

/-- The set with the code points between two bounds. -/
def insert (set : CharSet) (low high : Nat) : CharSet :=
  ⟨insertRange low high set.ranges⟩

/-- The members of either set. -/
def union (first second : CharSet) : CharSet :=
  first.ranges.foldr (fun range set ↦ set.insert range.1 range.2) second

/-- The set without the code points between two bounds. -/
def erase (set : CharSet) (low high : Nat) : CharSet :=
  ⟨set.ranges.flatMap (outsideRange low high)⟩

/-- The members of the first set that the second one lacks. -/
def difference (first second : CharSet) : CharSet :=
  second.ranges.foldr (fun range set ↦ set.erase range.1 range.2) first

/-- The characters that a set lacks. -/
def complement (set : CharSet) : CharSet :=
  all.difference set

/-- The members of both sets. -/
def intersection (first second : CharSet) : CharSet :=
  first.difference second.complement

/-- The members of one of two sets and not of the other. -/
def symmetricDifference (first second : CharSet) : CharSet :=
  (first.difference second).union (second.difference first)

/-- The set, or its complement. -/
def negatedIf (negated : Bool) (set : CharSet) : CharSet :=
  if negated then set.complement else set

/-- Whether all members are characters of ASCII. -/
def isAscii (set : CharSet) : Bool :=
  set.ranges.all (·.2 < 0x80)

/-- The set with the partners of its members in pairs of code points. -/
def foldedBy (pairs : List (Nat × Nat)) (set : CharSet) : CharSet :=
  let upper := pairs.filterMap fun pair ↦ if set.hasCode pair.1 then some pair.2 else .none
  let lower := pairs.filterMap fun pair ↦ if set.hasCode pair.2 then some pair.1 else .none
  (upper ++ lower).foldr (fun code set ↦ set.insert code code) set

/-- The set with the partners of its members in letter case. -/
def folded (set : CharSet) : CharSet :=
  set.foldedBy Text.foldPairs

/-- The set with the partners of its members in letter case, the letters of ASCII alone. -/
def foldedInAscii (set : CharSet) : CharSet :=
  set.foldedBy (Text.foldPairs.filter fun pair ↦ pair.1 < 0x80 && pair.2 < 0x80)

end CharSet

end TokenMint.Regex
