import TokenMint.Regex.CharSet

/-!
# Sets of characters as sequences of byte ranges

The UTF-8 forms of the characters of a set fall into sequences of byte ranges: a sequence stands for
all choices of one byte from each of its ranges. `CharSet.byteRanges` lists them in the order of the
characters, as few of them as there can be, and never with a surrogate.
-/

set_option autoImplicit false
set_option relaxedAutoImplicit false

namespace TokenMint.Regex

/-- A range of bytes for each byte of a character. -/
abbrev ByteRanges : Type :=
  List (Nat × Nat)

/-- The number of characters of one lead byte that so many further bytes follow. -/
def leadSpan (trailing : Nat) : Nat :=
  1 <<< (6 * trailing)

/-- Any further bytes. -/
def anyTrailing (trailing : Nat) : ByteRanges :=
  List.replicate trailing (0x80, 0xbf)

/-- The sequences for the numbers between two bounds, written with a first byte above `lead` and so
many further bytes, six bits in each. -/
def sequences : (trailing lead low high : Nat) → List ByteRanges
  | 0, lead, low, high => [[(lead + low, lead + high)]]
  | trailing + 1, lead, low, high =>
    let size := leadSpan (trailing + 1)
    let first := low / size
    let last := high / size
    if first = last then
      (sequences trailing 0x80 (low % size) (high % size)).map ((lead + first, lead + first) :: ·)
    else
      let cutLow := low % size ≠ 0
      let cutHigh := high % size ≠ size - 1
      let wholeFirst := if cutLow then first + 1 else first
      let wholeLast := if cutHigh then last - 1 else last
      (if cutLow then
        (sequences trailing 0x80 (low % size) (size - 1)).map ((lead + first, lead + first) :: ·)
      else []) ++
      (if wholeFirst ≤ wholeLast then
        [(lead + wholeFirst, lead + wholeLast) :: anyTrailing (trailing + 1)]
      else []) ++
      (if cutHigh then
        (sequences trailing 0x80 0 (high % size)).map ((lead + last, lead + last) :: ·)
      else [])

/-- The forms of characters: how many bytes follow the first one, what its lowest value is, and the
characters that are written so. -/
def forms : List (Nat × Nat × Nat × Nat) :=
  [(0, 0, 0, 0x7f), (1, 0xc0, 0x80, 0x7ff), (2, 0xe0, 0x800, 0xd7ff), (2, 0xe0, 0xe000, 0xffff),
    (3, 0xf0, 0x10000, lastCode)]

/-- The sequences for the characters between two bounds. -/
def rangeSequences (range : Nat × Nat) : List ByteRanges :=
  forms.flatMap fun (trailing, lead, lowest, highest) ↦
    let low := max range.1 lowest
    let high := min range.2 highest
    if low ≤ high then sequences trailing lead low high else []

/-- The sequences for the characters of a set. -/
def CharSet.byteRanges (set : CharSet) : List ByteRanges :=
  set.ranges.flatMap rangeSequences

/-- The number of bytes of a character. -/
def byteLength (code : Nat) : Nat :=
  if code < 0x80 then 1 else if code < 0x800 then 2 else if code < 0x10000 then 3 else 4

/-- The bytes of a character. -/
def bytesOfCode (code : Nat) : List Nat :=
  (rangeSequences (code, code)).flatten.map (·.1)

end TokenMint.Regex
