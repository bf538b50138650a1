import TokenMint.Fault
import TokenMint.Text.Blank

/-!
# Formats of token text

A format decides how the random bytes of a token are written. Custom tokens take four bytes per
character (`entropySize`), and their characters may be set apart in groups; `encodedLength` is the
number of characters of a token, separators included. Names are read in any ASCII letter case.
-/

set_option autoImplicit false
set_option relaxedAutoImplicit false

namespace TokenMint

/-- How the bytes of a token are written. -/
inductive Format where
  /-- Lowercase hexadecimal digits. -/
  | hex
  /-- URL-safe base64 without padding. -/
  | base64Url
  /-- Standard base64 with padding. -/
  | base64
  /-- Characters of a configured alphabet. -/
  | custom
  deriving DecidableEq

/-- The number of random bytes behind one custom character. -/
abbrev bytesPerCharacter : Nat := 4

/-- The number of separators between so many characters in groups of `grouping`. -/
def separatorCount (length grouping : Nat) : Nat :=
  if grouping = 0 ∨ length = 0 then 0 else (length - 1) / grouping

namespace Format

/-- The format of a configuration that names none. -/
def standard : Format :=
  .base64Url

instance : Inhabited Format := ⟨standard⟩

/-- The name of a format. -/
def name : Format → String
  | hex => "hex"
  | base64Url => "base64url"
  | base64 => "base64"
  | custom => "custom"

/-- The format of a name. -/
def ofName (text : String) : Except ConfigFault Format :=
  let name := Text.lowercase text
  if name = "hex" then .ok .hex
  else if name = "base64url" then .ok .base64Url
  else if name = "base64" then .ok .base64
  else if name = "custom" then .ok .custom
  else .error (.unknownFormat name)

/-- The number of random bytes for a token of the given length. -/
def entropySize (format : Format) (length : Nat) : Nat :=
  match format with
  | .custom => length * bytesPerCharacter
  | _ => length

/-- The number of characters of a token of the given length. -/
def encodedLength (format : Format) (length grouping : Nat) : Nat :=
  match format with
  | .hex => length * 2
  | .base64Url => (length * 4 + 2) / 3
  | .base64 => (length + 2) / 3 * 4
  | .custom => length + separatorCount length grouping

end Format

end TokenMint
