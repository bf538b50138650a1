import TokenMint.Bytes.Utf8
import TokenMint.Text.Numeral

/-!
# Lexemes of JSON

The parts of JSON that are read and written here are blanks, strings and natural numbers, all of
them as bytes. A string is read in two steps. `pieces?` finds its closing quote and takes the
escapes apart, so that every piece is a byte or a 16-bit unit; `bytesOf?` pairs the units that are
surrogates and refuses the ones that stand alone. The bytes must then be UTF-8. Writing escapes the
quote, the backslash and the control characters, and nothing else.
-/

set_option autoImplicit false
set_option relaxedAutoImplicit false

namespace TokenMint.Json

/-! ### Characters with a meaning -/

/-- The quotation mark. -/
abbrev quote : UInt8 := 0x22

/-- The backslash. -/
abbrev backslash : UInt8 := 0x5c

/-- The comma. -/
abbrev comma : UInt8 := 0x2c

/-- The colon. -/
abbrev colon : UInt8 := 0x3a

/-- The opening bracket of an array. -/
abbrev arrayOpen : UInt8 := 0x5b

/-- The closing bracket of an array. -/
abbrev arrayClose : UInt8 := 0x5d

/-- The opening brace of an object. -/
abbrev objectOpen : UInt8 := 0x7b

/-- The closing brace of an object. -/
abbrev objectClose : UInt8 := 0x7d

/-- Whether a byte is an ASCII digit. -/
def isDigit (byte : UInt8) : Bool :=
  0x30 ≤ byte && byte ≤ 0x39

/-- Whether a byte may stand between lexemes: a space, a tab, a line feed or a carriage return. -/
def isBlank (byte : UInt8) : Bool :=
  byte == 0x20 || byte == 0x09 || byte == 0x0a || byte == 0x0d

/-- What follows the blanks at the start. -/
def skipBlanks (text : List UInt8) : List UInt8 :=
  text.dropWhile isBlank

/-- What follows the given byte, if it comes next after blanks. -/
def after? (byte : UInt8) (text : List UInt8) : Option (List UInt8) :=
  match skipBlanks text with
  | [] => none
  | first :: rest => if first = byte then some rest else none

/-- What follows the given bytes, if the text starts with them. -/
def drop? : List UInt8 → List UInt8 → Option (List UInt8)
  | [], text => some text
  | _ :: _, [] => none
  | byte :: expected, first :: rest => if first = byte then drop? expected rest else none

/-! ### Strings -/

/-- A part of a string: a byte that stands for itself, or a 16-bit unit given by its number. -/
inductive Piece where
  | byte (value : UInt8)
  | unit (value : Nat)
  deriving DecidableEq

/-- The value of a hexadecimal digit in either letter case. -/
def hexValue? (byte : UInt8) : Option Nat :=
  if isDigit byte then some (byte.toNat - 0x30)
  else if 0x61 ≤ byte ∧ byte ≤ 0x66 then some (byte.toNat - 0x57)
  else if 0x41 ≤ byte ∧ byte ≤ 0x46 then some (byte.toNat - 0x37)
  else none

/-- The unit of four hexadecimal digits. -/
def unit? (first second third fourth : UInt8) : Option Nat := do
  let first ← hexValue? first
  let second ← hexValue? second
  let third ← hexValue? third
  let fourth ← hexValue? fourth
  return ((first * 16 + second) * 16 + third) * 16 + fourth

/-- The byte that a single letter or sign after a backslash stands for. -/
def unescape? (byte : UInt8) : Option UInt8 :=
  if byte = quote ∨ byte = backslash ∨ byte = 0x2f then some byte
  else if byte = 0x62 then some 0x08
  else if byte = 0x66 then some 0x0c
  else if byte = 0x6e then some 0x0a
  else if byte = 0x72 then some 0x0d
  else if byte = 0x74 then some 0x09
  else none

/-- Puts a piece in front. -/
def withPiece (piece : Piece) (read : Option (List Piece × List UInt8)) :
    Option (List Piece × List UInt8) :=
  read.map fun result ↦ (piece :: result.1, result.2)

/-- The pieces of a string after its opening quote, and what follows its closing quote. -/
def pieces? : List UInt8 → Option (List Piece × List UInt8)
  | [] => none
  | first :: rest =>
    if first = quote then some ([], rest)
    else if first = backslash then
      match rest with
      | [] => none
      | letter :: rest =>
        if letter = 0x75 then
          match rest with
          | a :: b :: c :: d :: rest =>
            match unit? a b c d with
            | none => none
            | some unit => withPiece (.unit unit) (pieces? rest)
          | _ => none
        else
          match unescape? letter with
          | none => none
          | some byte => withPiece (.byte byte) (pieces? rest)
    else if first < 0x20 then none
    else withPiece (.byte first) (pieces? rest)

/-- The UTF-8 bytes of a code point. -/
def bytesOfCodePoint (codePoint : Nat) : List UInt8 :=
  String.utf8EncodeChar (Char.ofNat codePoint)

/-- Whether a unit is the first of a surrogate pair. -/
def isHighSurrogate (unit : Nat) : Bool :=
  0xd800 ≤ unit && unit ≤ 0xdbff

/-- Whether a unit is the second of a surrogate pair. -/
def isLowSurrogate (unit : Nat) : Bool :=
  0xdc00 ≤ unit && unit ≤ 0xdfff

/-- The code point of a surrogate pair. -/
def pairedCodePoint (high low : Nat) : Nat :=
  (high - 0xd800) * 0x400 + (low - 0xdc00) + 0x10000

/-- The bytes of the pieces, unless a surrogate stands alone. -/
def bytesOf? : List Piece → Option (List UInt8)
  | [] => some []
  | .byte byte :: rest => (bytesOf? rest).map (byte :: ·)
  | .unit high :: .unit low :: rest =>
    if isHighSurrogate high then
      if isLowSurrogate low then
        (bytesOf? rest).map (bytesOfCodePoint (pairedCodePoint high low) ++ ·)
      else none
    else if isLowSurrogate high then none
    else (bytesOf? (.unit low :: rest)).map (bytesOfCodePoint high ++ ·)
  | .unit unit :: rest =>
    if isHighSurrogate unit || isLowSurrogate unit then none
    else (bytesOf? rest).map (bytesOfCodePoint unit ++ ·)

/-- The string that comes next after blanks, and what follows it. -/
def string? (text : List UInt8) : Option (String × List UInt8) := do
  let rest ← after? quote text
  let (pieces, rest) ← pieces? rest
  let bytes ← bytesOf? pieces
  let value ← Bytes.Utf8.toText? bytes
  return (value, rest)

/-- A lowercase hexadecimal digit. -/
def hexDigit (n : Nat) : UInt8 :=
  if n < 10 then UInt8.ofNat (0x30 + n) else UInt8.ofNat (0x57 + n)

/-- A byte as it is written between quotes. -/
def escape (byte : UInt8) : List UInt8 :=
  if byte = quote ∨ byte = backslash then [backslash, byte]
  else if byte = 0x08 then [backslash, 0x62]
  else if byte = 0x0c then [backslash, 0x66]
  else if byte = 0x0a then [backslash, 0x6e]
  else if byte = 0x0d then [backslash, 0x72]
  else if byte = 0x09 then [backslash, 0x74]
  else if byte < 0x20 then
    [backslash, 0x75, 0x30, 0x30, hexDigit (byte.toNat / 16), hexDigit (byte.toNat % 16)]
  else [byte]

/-- A text as a string with its quotes. -/
def writeString (text : String) : List UInt8 :=
  quote :: (Bytes.Utf8.ofText text).flatMap escape ++ [quote]

/-! ### Natural numbers -/

/-- The value of decimal digits, the most significant first. -/
def decimalValue (digits : List UInt8) : Nat :=
  digits.foldl (fun total digit ↦ 10 * total + (digit.toNat - 0x30)) 0

/-- Whether digits are a natural number without a needless zero in front. -/
def isNatural : List UInt8 → Bool
  | [] => false
  | [_] => true
  | first :: _ :: _ => first != 0x30

/-- The 64-bit number that comes next after blanks, and what follows it. -/
def word? (text : List UInt8) : Option (UInt64 × List UInt8) :=
  let (digits, rest) := (skipBlanks text).span isDigit
  if isNatural digits && decide (decimalValue digits < Text.Numeral.bound) then
    some (UInt64.ofNat (decimalValue digits), rest)
  else
    none

/-- A number in decimal digits. -/
def writeWord (word : UInt64) : List UInt8 :=
  Bytes.Utf8.ofText (Nat.repr word.toNat)

end TokenMint.Json
