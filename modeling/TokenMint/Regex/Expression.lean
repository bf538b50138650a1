import TokenMint.Regex.CharSet
import TokenMint.Text.Word

/-!
# Regular expressions

An `Expression` is made up of sets of characters and of conditions on a position, `Look`, by
sequences, choices, groups and repetitions. Where it matches is up to a search.
-/

set_option autoImplicit false
set_option relaxedAutoImplicit false

namespace TokenMint.Regex

/-- A condition on the characters just before and just after a position. -/
inductive Look where
  | textStart
  | textEnd
  /-- The start of a line; with `returns`, a carriage return ends a line too. -/
  | lineStart (returns : Bool)
  /-- The end of a line; with `returns`, a carriage return ends a line too. -/
  | lineEnd (returns : Bool)
  /-- A word starts or ends here; with `ascii`, as for all conditions on words, letters and digits
  beyond ASCII are no part of words. -/
  | boundary (ascii : Bool)
  | noBoundary (ascii : Bool)
  | wordStart (ascii : Bool)
  | wordEnd (ascii : Bool)
  /-- No word character comes before. -/
  | wordStartHalf (ascii : Bool)
  /-- No word character comes after. -/
  | wordEndHalf (ascii : Bool)
  deriving DecidableEq

/-- Whether a character is part of a word. -/
def isWordIn (ascii : Bool) (c : Char) : Bool :=
  if ascii then c.isAlphanum || c == '_' else Text.isWord c

/-- Whether a condition holds between two characters; the text has none before its start and after
its end. -/
def Look.holds (before after : Option Char) : Look → Bool
  | textStart => before.isNone
  | textEnd => after.isNone
  | lineStart false => before.all (· == '\n')
  | lineStart true => before.all fun c ↦ c == '\n' || (c == '\r' && after != some '\n')
  | lineEnd false => after.all (· == '\n')
  | lineEnd true => after.all fun c ↦ c == '\r' || (c == '\n' && before != some '\r')
  | boundary ascii => before.any (isWordIn ascii) != after.any (isWordIn ascii)
  | noBoundary ascii => before.any (isWordIn ascii) == after.any (isWordIn ascii)
  | wordStart ascii => !before.any (isWordIn ascii) && after.any (isWordIn ascii)
  | wordEnd ascii => before.any (isWordIn ascii) && !after.any (isWordIn ascii)
  | wordStartHalf ascii => !before.any (isWordIn ascii)
  | wordEndHalf ascii => !after.any (isWordIn ascii)

/-- A regular expression. -/
inductive Expression where
  /-- The empty text. -/
  | empty
  /-- One character of a set. -/
  | one (set : CharSet)
  /-- The empty text at a place where a condition holds. -/
  | look (condition : Look)
  /-- The first expression followed by the second. -/
  | append (first second : Expression)
  /-- Either expression. -/
  | either (first second : Expression)
  /-- An expression whose span is recorded. -/
  | group (body : Expression)
  /-- At least `low` copies in a row, and at most `high` if there is such a bound. -/
  | repeated (body : Expression) (low : Nat) (high : Option Nat)
  deriving DecidableEq

end TokenMint.Regex
