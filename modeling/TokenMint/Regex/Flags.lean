import TokenMint.Regex.Fault
import TokenMint.Text.Blank

/-!
# Flags

Flags decide how what follows them is read: whether letter case counts, what the dot and the two
line marks stand for, whether blanks and comments between the parts are skipped, and whether only
ASCII counts as letters, digits and blanks.
-/

set_option autoImplicit false
set_option relaxedAutoImplicit false

namespace TokenMint.Regex

/-- The flags in force at one place of a text. -/
structure Flags where
  /-- A letter stands for its partners in letter case too. -/
  ignoreCase : Bool
  /-- The two line marks hold at every line, not only at the ends of the text. -/
  multiLine : Bool
  /-- The dot stands for a line feed too. -/
  dotAll : Bool
  /-- Carriage returns end lines too. -/
  returns : Bool
  /-- Blanks and comments are skipped. -/
  spaced : Bool
  /-- Classes of characters, letter case and words are those of ASCII. -/
  ascii : Bool
  deriving DecidableEq

/-- The text after blanks and comments, each of which runs from a `#` to the end of its line. -/
def skipBlanks : (comment : Bool) → List Char → List Char
  | _, [] => []
  | true, c :: rest => skipBlanks (c != '\n') rest
  | false, c :: rest =>
    if Text.isBlank c then skipBlanks false rest
    else if c = '#' then skipBlanks true rest
    else c :: rest

namespace Flags

/-- No flag is set. -/
def none : Flags :=
  ⟨false, false, false, false, false, false⟩

/-- The text after what these flags say is to be skipped. -/
def skip (flags : Flags) (text : List Char) : List Char :=
  if flags.spaced then skipBlanks false text else text

/-- The flags with one of them set or cleared by its letter. Which copies a repetition prefers, `U`,
makes no difference to whether there is a match, and clearing Unicode, `u`, leaves ASCII. -/
def change (flags : Flags) (letter : Char) (on : Bool) : Option Flags :=
  match letter with
  | 'i' => some { flags with ignoreCase := on }
  | 'm' => some { flags with multiLine := on }
  | 's' => some { flags with dotAll := on }
  | 'R' => some { flags with returns := on }
  | 'x' => some { flags with spaced := on }
  | 'U' => some flags
  | 'u' => some { flags with ascii := !on }
  | _ => .none

/-- Reads letters of flags up to a colon or a closing parenthesis. Flags after a hyphen are cleared;
`seen` are the marks that have been read, the last one first. -/
def read (flags : Flags) : (seen : List Char) → List Char →
    Except SyntaxFault (Flags × List Char × List Char)
  | _, [] => .error .unclosedGroup
  | seen, c :: rest =>
    if c = ':' ∨ c = ')' then
      if seen.head? = some '-' then .error .danglingNegation else .ok (flags, seen, c :: rest)
    else if seen.contains c then .error (.repeatedFlag c)
    else if c = '-' then flags.read (c :: seen) rest
    else
      match flags.change c (!seen.contains '-') with
      | some flags => flags.read (c :: seen) rest
      | .none => .error (.unknownFlag c)

/-- The longest run of accepted characters that a text begins with, where these flags may have
something skipped after each of them. -/
def run (flags : Flags) (accept : Char → Bool) : (length : Nat) → List Char → List Char × List Char
  | length + 1, c :: rest =>
    if accept c then
      let (taken, left) := flags.run accept length (flags.skip rest)
      (c :: taken, left)
    else ([], c :: rest)
  | _, text => ([], text)

/-- The accepted characters that a text begins with, and the text after them. -/
def takeRun (flags : Flags) (accept : Char → Bool) (text : List Char) : List Char × List Char :=
  flags.run accept text.length text

end Flags

end TokenMint.Regex
