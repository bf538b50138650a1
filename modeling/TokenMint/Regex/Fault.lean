/-!
# What can be wrong with the text of an expression

A `SyntaxFault` is the reason why a text is no regular expression, or why the expression is refused
for its depth or its size.
-/

set_option autoImplicit false
set_option relaxedAutoImplicit false

namespace TokenMint.Regex

/-- What is wrong with the text of an expression. -/
inductive SyntaxFault where
  | unclosedGroup
  | unopenedGroup
  | lookAround
  | groupNameInvalid
  | groupNameRepeated
  | unknownFlag (c : Char)
  | repeatedFlag (c : Char)
  | danglingNegation
  | unclosedSet
  | reversedRange
  | setAsBound
  | lookInSet
  | nothingToRepeat
  | unclosedCount
  | emptyCount
  | countTooLarge
  | reversedCount
  | trailingBackslash
  | unknownEscape (c : Char)
  | notACodePoint
  | unclosedBoundary
  | unknownBoundary
  /-- An escape for a property is followed by another escape. -/
  | propertyInvalid
  | unknownProperty
  /-- Characters beyond ASCII are asked for where only ASCII counts. -/
  | notAscii
  /-- Bytes that are no part of a character would match. -/
  | notUtf8
  /-- Parts are nested too deeply. -/
  | tooDeep
  /-- The automaton takes too much memory. -/
  | tooLarge
  deriving DecidableEq

/-- The wording of a fault. -/
def SyntaxFault.message : SyntaxFault → String
  | unclosedGroup => "unclosed group"
  | unopenedGroup => "unopened group"
  | lookAround => "look-around is not supported"
  | groupNameInvalid => "invalid group name"
  | groupNameRepeated => "duplicate group name"
  | unknownFlag c => "unrecognized flag '" ++ String.singleton c ++ "'"
  | repeatedFlag c => "duplicate flag '" ++ String.singleton c ++ "'"
  | danglingNegation => "dangling flag negation"
  | unclosedSet => "unclosed character class"
  | reversedRange => "invalid character class range"
  | setAsBound => "a class escape cannot bound a range"
  | lookInSet => "a look-around escape cannot stand in a character class"
  | nothingToRepeat => "repetition operator missing expression"
  | unclosedCount => "unclosed counted repetition"
  | emptyCount => "repetition quantifier expects a valid decimal"
  | countTooLarge => "repetition count out of range"
  | reversedCount => "invalid repetition count range"
  | trailingBackslash => "incomplete escape sequence"
  | unknownEscape c => "unrecognized escape sequence '" ++ String.singleton c ++ "'"
  | notACodePoint => "hexadecimal escape is not a character"
  | unclosedBoundary => "unclosed word boundary"
  | unknownBoundary => "unrecognized word boundary"
  | propertyInvalid => "invalid Unicode character class"
  | unknownProperty => "Unicode property not found"
  | notAscii => "Unicode not allowed here"
  | notUtf8 => "pattern can match invalid UTF-8"
  | tooDeep => "parts are nested too deeply"
  | tooLarge => "compiled expression is too large"

end TokenMint.Regex
