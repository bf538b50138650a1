import TokenMint.Json.Lexeme

/-!
# Passing over JSON values

`skipValue?` finds the end of any JSON value without keeping it. The value must have the form that
JSON prescribes: brackets match, commas separate, numbers have no needless zeros. Its strings are
only checked for their form, so that their bytes need not be UTF-8 nor their surrogates paired.
Every step of `skip?` uses at least one byte or moves from a value to its parts, so twice the number
of bytes is more fuel than a value can use.
-/

set_option autoImplicit false
set_option relaxedAutoImplicit false

namespace TokenMint.Json

/-- What follows the digits at the start, if there is at least one. -/
def skipDigits? : List UInt8 → Option (List UInt8)
  | [] => none
  | first :: rest => if isDigit first then some (rest.dropWhile isDigit) else none

/-- What follows the fraction of a number, if it has one and it is well formed. -/
def skipFraction? : List UInt8 → Option (List UInt8)
  | [] => some []
  | first :: rest => if first = 0x2e then skipDigits? rest else some (first :: rest)

/-- What follows the sign of an exponent, if it has one. -/
def skipSign : List UInt8 → List UInt8
  | [] => []
  | first :: rest => if first = 0x2b ∨ first = 0x2d then rest else first :: rest

/-- What follows the exponent of a number, if it has one and it is well formed. -/
def skipExponent? : List UInt8 → Option (List UInt8)
  | [] => some []
  | first :: rest =>
    if first = 0x65 ∨ first = 0x45 then skipDigits? (skipSign rest) else some (first :: rest)

/-- What follows a number. -/
def skipNumber? (text : List UInt8) : Option (List UInt8) :=
  let unsigned := (drop? [0x2d] text).getD text
  let (digits, rest) := unsigned.span isDigit
  if isNatural digits then (skipFraction? rest).bind skipExponent? else none

/-- What follows a string. -/
def skipString? (text : List UInt8) : Option (List UInt8) := do
  let rest ← after? quote text
  let (_, rest) ← pieces? rest
  return rest

/-- What follows a value that has no parts. -/
def skipScalar? (text : List UInt8) : Option (List UInt8) :=
  skipString? text <|> drop? [0x6e, 0x75, 0x6c, 0x6c] text <|>
    drop? [0x74, 0x72, 0x75, 0x65] text <|> drop? [0x66, 0x61, 0x6c, 0x73, 0x65] text <|>
    skipNumber? text

/-- What is passed over: a value, or the elements or members up to a closing bracket. -/
inductive Passage where
  | value
  | elements
  | members

/-- What follows a value, or a closing bracket and the values before it. -/
def skip? : Nat → Passage → List UInt8 → Option (List UInt8)
  | 0, _, _ => none
  | fuel + 1, .value, text =>
    match after? arrayOpen text with
    | some rest => (after? arrayClose rest).orElse fun _ ↦ skip? fuel .elements rest
    | none =>
      match after? objectOpen text with
      | some rest => (after? objectClose rest).orElse fun _ ↦ skip? fuel .members rest
      | none => skipScalar? (skipBlanks text)
  | fuel + 1, .elements, text => do
    let rest ← skip? fuel .value text
    match after? comma rest with
    | some rest => skip? fuel .elements rest
    | none => after? arrayClose rest
  | fuel + 1, .members, text => do
    let rest ← skipString? text
    let rest ← after? colon rest
    let rest ← skip? fuel .value rest
    match after? comma rest with
    | some rest => skip? fuel .members rest
    | none => after? objectClose rest

/-- What follows the value that comes next. -/
def skipValue? (text : List UInt8) : Option (List UInt8) :=
  skip? (2 * text.length + 2) .value text

end TokenMint.Json
