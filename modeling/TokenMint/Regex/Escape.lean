import TokenMint.Regex.Expression
import TokenMint.Regex.Flags
import TokenMint.Regex.Property

/-!
# Escapes

A backslash takes the special meaning from a punctuation character, and gives one to a letter: a
class of characters, the characters with a property, a control character, a character by its number,
or a place to look at. A letter or digit without such a meaning may not be escaped. Where the flags
leave only ASCII, classes have members of ASCII alone: one that would have others is refused.
-/

set_option autoImplicit false
set_option relaxedAutoImplicit false

namespace TokenMint.Regex

/-! ### Sets under flags -/

namespace Flags

/-- The set as it counts under flags: in both letter cases, if case is ignored. -/
def cased (flags : Flags) (set : CharSet) : CharSet :=
  if flags.ignoreCase then if flags.ascii then set.foldedInAscii else set.folded else set

/-- The set or its complement, unless it has members that the flags do not allow. -/
def admitted (flags : Flags) (negated : Bool) (set : CharSet) : Except SyntaxFault CharSet :=
  let members := set.negatedIf negated
  if flags.ascii && !members.isAscii then .error .notUtf8 else .ok members

end Flags

/-- The decimal digits. -/
def digits (ascii : Bool) : CharSet :=
  ⟨if ascii then [(0x30, 0x39)] else Text.digitRanges⟩

/-- The word characters. -/
def wordCharacters (ascii : Bool) : CharSet :=
  ⟨if ascii then [(0x30, 0x39), (0x41, 0x5a), (0x5f, 0x5f), (0x61, 0x7a)] else Text.wordRanges⟩

/-- The blanks. -/
def blanks (ascii : Bool) : CharSet :=
  ⟨if ascii then [(0x09, 0x0d), (0x20, 0x20)] else Text.blankRanges⟩

/-! ### Kinds of escapes -/

/-- What an escape stands for. -/
inductive Escape where
  | literal (c : Char)
  | set (members : CharSet)
  | look (condition : Look)

/-- Whether a character is punctuation, a blank or a control character of ASCII. A backslash makes
it stand for itself; the two angle brackets are taken for the ends of words. -/
def isPlainWhenEscaped (c : Char) : Bool :=
  c.toNat < 128 && !c.isAlphanum && c != '<' && c != '>'

/-- The value of a hexadecimal digit. -/
def hexValue? (c : Char) : Option Nat :=
  if c.isDigit then some (c.toNat - 48)
  else if 'a' ≤ c ∧ c ≤ 'f' then some (c.toNat - 87)
  else if 'A' ≤ c ∧ c ≤ 'F' then some (c.toNat - 55)
  else none

/-- The character whose number has the given hexadecimal digits. -/
def charOfHex (hexDigits : List Char) : Except SyntaxFault Char :=
  let code := (hexDigits.filterMap hexValue?).foldl (fun total digit ↦ 16 * total + digit) 0
  if !hexDigits.isEmpty && decide code.isValidChar then .ok (Char.ofNat code)
  else .error .notACodePoint

/-- Reads the given number of hexadecimal digits. -/
def takeHex (flags : Flags) : (count : Nat) → List Char → Except SyntaxFault (List Char × List Char)
  | 0, text => .ok ([], text)
  | _ + 1, [] => .error .trailingBackslash
  | count + 1, c :: rest =>
    if (hexValue? c).isNone then .error .notACodePoint
    else do
      let (hexDigits, left) ← takeHex flags count (flags.skip rest)
      return (c :: hexDigits, left)

/-- Whether the number of a character with so many digits stands for a byte of its own, and not for
the character. -/
def isLoneByte (flags : Flags) (count : Nat) (c : Char) : Bool :=
  flags.ascii && count == 2 && 0x80 ≤ c.toNat

/-- Reads the number of a character: hexadecimal digits in braces, or a fixed count of them. -/
def readHex (flags : Flags) (count : Nat) (text : List Char) :
    Except SyntaxFault (Escape × List Char) :=
  match flags.skip text with
  | '{' :: rest =>
    let (hexDigits, left) := flags.takeRun (fun c ↦ (hexValue? c).isSome) (flags.skip rest)
    match left with
    | '}' :: left => do return (.literal (← charOfHex hexDigits), flags.skip left)
    | [] => .error .trailingBackslash
    | _ => .error .notACodePoint
  | rest => do
    let (hexDigits, left) ← takeHex flags count rest
    let c ← charOfHex hexDigits
    if isLoneByte flags count c then .error .notUtf8 else return (.literal c, left)

/-- The place that a name in braces stands for. -/
def namedBoundary (flags : Flags) (name : List Char) : Except SyntaxFault Look :=
  match String.ofList name with
  | "start" => .ok (.wordStart flags.ascii)
  | "end" => .ok (.wordEnd flags.ascii)
  | "start-half" => .ok (.wordStartHalf flags.ascii)
  | "end-half" => .ok (.wordEndHalf flags.ascii)
  | _ => .error .unknownBoundary

/-- Whether a character can be part of the name of a boundary. -/
def isBoundaryCharacter (c : Char) : Bool :=
  c.isAlpha || c == '-'

/-- Reads what follows the escape of a word boundary. A brace after it opens a name, unless what it
holds cannot be one: then it is left, as the start of a count. -/
def readBoundary (flags : Flags) (text : List Char) : Except SyntaxFault (Escape × List Char) :=
  match text with
  | '{' :: rest =>
    match flags.skip rest with
    | [] => .error .unclosedBoundary
    | c :: more =>
      if isBoundaryCharacter c then
        let (name, left) := flags.takeRun isBoundaryCharacter (c :: more)
        match left with
        | '}' :: left => do return (.look (← namedBoundary flags name), left)
        | _ => .error .unclosedBoundary
      else .ok (.look (.boundary flags.ascii), text)
  | _ => .ok (.look (.boundary flags.ascii), text)

/-- Reads what is asked for after the escape for a property: one letter, or a text in braces. -/
def readQuery (flags : Flags) (text : List Char) :
    Except SyntaxFault (PropertyQuery × List Char) :=
  match flags.skip text with
  | [] => .error .trailingBackslash
  | '\\' :: _ => .error .propertyInvalid
  | '{' :: rest =>
    let (name, left) := flags.takeRun (· != '}') (flags.skip rest)
    match left with
    | [] => .error .trailingBackslash
    | _ :: left => .ok (.ofText name, left)
  | c :: rest => .ok (.letter c, rest)

/-- Reads what follows the escape for a property, and finds the characters that have it or lack
it. -/
def readProperty (properties : Properties) (flags : Flags) (negated : Bool) (text : List Char) :
    Except SyntaxFault (Escape × List Char) := do
  let (query, left) ← readQuery flags text
  if flags.ascii then .error .notAscii
  else
    match properties.find? query with
    | none => .error .unknownProperty
    | some set => return (.set (← flags.admitted negated (flags.cased set)), left)

/-- The class that a letter after a backslash stands for, and whether it is taken the other way. -/
def letterClass? (ascii : Bool) (c : Char) : Option (Bool × CharSet) :=
  match c with
  | 'd' => some (false, digits ascii)
  | 'D' => some (true, digits ascii)
  | 'w' => some (false, wordCharacters ascii)
  | 'W' => some (true, wordCharacters ascii)
  | 's' => some (false, blanks ascii)
  | 'S' => some (true, blanks ascii)
  | _ => none

/-- The character or the place that a letter after a backslash stands for. -/
def letterEscape? (ascii : Bool) (c : Char) : Option Escape :=
  match c with
  | 'n' => some (.literal '\n')
  | 't' => some (.literal '\t')
  | 'r' => some (.literal '\r')
  | 'f' => some (.literal '\x0c')
  | 'v' => some (.literal '\x0b')
  | 'a' => some (.literal '\x07')
  | 'A' => some (.look .textStart)
  | 'z' => some (.look .textEnd)
  | 'B' => some (.look (.noBoundary ascii))
  | '<' => some (.look (.wordStart ascii))
  | '>' => some (.look (.wordEnd ascii))
  | _ => none

/-- Reads an escape after its backslash. -/
def readEscape (properties : Properties) (flags : Flags) (text : List Char) :
    Except SyntaxFault (Escape × List Char) :=
  match text with
  | [] => .error .trailingBackslash
  | 'x' :: rest => readHex flags 2 rest
  | 'u' :: rest => readHex flags 4 rest
  | 'U' :: rest => readHex flags 8 rest
  | 'b' :: rest => readBoundary flags rest
  | 'p' :: rest => readProperty properties flags false rest
  | 'P' :: rest => readProperty properties flags true rest
  | c :: rest =>
    match letterClass? flags.ascii c, letterEscape? flags.ascii c with
    | some (negated, set), _ => do return (.set (← flags.admitted negated set), rest)
    | none, some escape => .ok (escape, rest)
    | none, none =>
      if isPlainWhenEscaped c then .ok (.literal c, rest) else .error (.unknownEscape c)

end TokenMint.Regex
