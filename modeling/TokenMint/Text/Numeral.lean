import TokenMint.Text.Blank

/-!
# Unsigned numerals

A numeral is an optional plus sign followed by at least one ASCII digit, and its value must fit in
64 bits. `read?` reads one, and `readTrimmed?` does so after removing white space from both ends.
-/

set_option autoImplicit false
set_option relaxedAutoImplicit false

namespace TokenMint.Text.Numeral

/-- The number of values of a 64-bit word. -/
abbrev bound : Nat := UInt64.size

/-- The value of a list of decimal digits, the most significant first. -/
def value (digits : List Char) : Nat :=
  digits.foldl (fun total digit ↦ 10 * total + (digit.toNat - 48)) 0

/-- The numeral without its sign. -/
def unsigned : List Char → List Char
  | '+' :: digits => digits
  | digits => digits

/-- The value of a numeral, if the text is one. -/
def read? (text : List Char) : Option Nat :=
  let digits := unsigned text
  if !digits.isEmpty && digits.all Char.isDigit && decide (value digits < bound) then
    some (value digits)
  else
    none

/-- The value of a numeral that may stand between blanks. -/
def readTrimmed? (text : String) : Option Nat :=
  read? (trim text.toList)

end TokenMint.Text.Numeral
