import TokenMint.Fault
import TokenMint.Regex

/-!
# Patterns of paths

A `Pattern` says which paths a scope covers: a location covers itself and what lies below it, and an
expression covers the paths in which it matches. Patterns are ordered by how specific they are, for
which only their literal lead counts, the text with which a covered path is taken to begin. The lead
of an expression is read off its text alone.
-/

set_option autoImplicit false
set_option relaxedAutoImplicit false

namespace TokenMint

/-- Which paths a scope covers. -/
inductive Pattern where
  /-- A path and everything below it. -/
  | location (path : String)
  /-- The paths in which the expression matches. -/
  | expression (regex : Regex)
  deriving DecidableEq

namespace Pattern

/-- The character between the segments of a path. -/
def slash : Char := '/'

/-- Whether a location covers a path. The path must continue the location, and the location must
end where a segment of the path ends. -/
def covers (location path : List Char) : Bool :=
  location.isPrefixOf path &&
    (location.length == path.length || location.getLast? == some slash ||
      path[location.length]? == some slash)

/-- Whether the pattern covers a path. -/
def matches? (pattern : Pattern) (path : String) : Bool :=
  match pattern with
  | location place => covers place.toList path.toList
  | expression regex => regex.matches? path

/-- The characters of an expression that need not stand for themselves. -/
def special : List Char :=
  ['\\', '.', '+', '*', '?', '(', ')', '|', '[', ']', '\x7b', '\x7d', '^', '$']

/-- The special characters after which the character before them may be absent. -/
def optionalMarks : List Char :=
  ['?', '*', '\x7b']

/-- An expression without the anchor at its start. -/
def unanchored : List Char → List Char
  | '^' :: rest => rest
  | text => text

/-- The characters of an expression before the first special one, less the last of them if it may be
absent. -/
def leadOfExpression (source : List Char) : List Char :=
  let body := unanchored source
  let plain := body.takeWhile fun c ↦ !special.contains c
  match body[plain.length]? with
  | some mark => if optionalMarks.contains mark then plain.dropLast else plain
  | none => plain

/-- The text with which a covered path is taken to begin. -/
def lead : Pattern → List Char
  | location place => place.toList
  | expression regex => leadOfExpression regex.source.toList

/-- The number of non-empty segments of the literal lead. -/
def depth (pattern : Pattern) : Nat :=
  ((Text.segments (· == slash) pattern.lead).filter fun segment ↦ !segment.isEmpty).length

/-- The pattern as an operator writes it. -/
def text : Pattern → String
  | location place => place
  | expression regex => "~" ++ regex.source

/-- The expression of a text, as a pattern. -/
def ofExpression (source : String) : Except ConfigFault Pattern :=
  (Except.mapError .patternSyntax (Regex.ofString source)).map .expression

/-- The pattern that an operator writes: an expression after a tilde and blanks, or a location. -/
def ofText (text : String) : Except ConfigFault Pattern :=
  match text.toList with
  | '~' :: source => ofExpression (String.ofList (Text.trimStart source))
  | _ => .ok (.location text)

/-- How specific a pattern is: by depth, locations before expressions, and by the number of bytes of
the literal lead. Patterns are compared by the first of these numbers that differs. -/
def rank (pattern : Pattern) : List Nat :=
  let kind := match pattern with
    | location _ => 0
    | expression _ => 1
  [pattern.depth, kind, (String.ofList pattern.lead).utf8ByteSize]

end Pattern

end TokenMint
