import TokenMint.Regex.Bracket
import TokenMint.Regex.Compose
import TokenMint.Text.Numeral

/-!
# The written form of a regular expression, token by token

`readToken` reads the token that a text begins with. A literal character, the dot, a line mark, an
escape and a bracketed set each are one part; the parentheses, the bar, the repetition operators and
the setting of flags are tokens of their own. The lazy mark `?` after a repetition changes nothing
about whether there is a match and is dropped.
-/

set_option autoImplicit false
set_option relaxedAutoImplicit false

namespace TokenMint.Regex

/-- A token of the written form. -/
inductive Token where
  /-- An expression, with the number of levels that its written form is nested. -/
  | part (expression : Expression) (depth : Nat)
  | repetition (low : Nat) (high : Option Nat)
  /-- The start of a group, the flags inside, whether its span is recorded, and its name. -/
  | groupOpen (flags : Flags) (records : Bool) (name : Option (List Char))
  | groupClose
  | bar
  /-- Flags from here to the end of the group. -/
  | setFlags (flags : Flags)
  deriving DecidableEq

/-- The number of values of a 32-bit word. -/
def countBound : Nat :=
  UInt32.size

/-- One character as an expression. -/
def letter (flags : Flags) (c : Char) : Expression :=
  .one (flags.cased (CharSet.single c))

/-- What the dot stands for. It takes characters of any length in bytes. -/
def dot (flags : Flags) : Except SyntaxFault Expression :=
  let lineEnds := if flags.returns then (CharSet.single '\n').insert 13 13 else CharSet.single '\n'
  if flags.ascii then .error .notUtf8
  else .ok (.one (if flags.dotAll then CharSet.all else lineEnds.complement))

/-- What the mark of a line start stands for. -/
def lineStart (flags : Flags) : Expression :=
  .look (if flags.multiLine then .lineStart flags.returns else .textStart)

/-- What the mark of a line end stands for. -/
def lineEnd (flags : Flags) : Expression :=
  .look (if flags.multiLine then .lineEnd flags.returns else .textEnd)

/-- What an escape stands for outside brackets. -/
def Escape.expression (flags : Flags) : Escape → Expression
  | literal c => letter flags c
  | set members => .one members
  | look condition => .look condition

/-! ### Repetitions -/

/-- The text without a lazy mark at its start. -/
def dropLazy : List Char → List Char
  | '?' :: rest => rest
  | text => text

/-- Reads a number between blanks. -/
def readCount (flags : Flags) (text : List Char) : Except SyntaxFault (Nat × List Char) :=
  let (digits, rest) := flags.takeRun Char.isDigit (Text.trimStart text)
  if digits.isEmpty then .error .emptyCount
  else if countBound ≤ Text.Numeral.value digits then .error .countTooLarge
  else .ok (Text.Numeral.value digits, Text.trimStart rest)

/-- Reads the upper bound of a repetition up to the closing brace. -/
def readHighCount (flags : Flags) (low : Nat) (text : List Char) :
    Except SyntaxFault (Token × List Char) :=
  match text with
  | '}' :: rest => .ok (.repetition low none, rest)
  | [] => .error .unclosedCount
  | text => do
    let (high, rest) ← readCount flags text
    match rest with
    | '}' :: rest =>
      if low ≤ high then return (.repetition low (some high), rest) else .error .reversedCount
    | _ => .error .unclosedCount

/-- Reads the counts of a repetition after the opening brace. -/
def readCounts (flags : Flags) (text : List Char) : Except SyntaxFault (Token × List Char) := do
  let (low, rest) ← readCount flags (flags.skip text)
  let (token, rest) ← match rest with
    | ',' :: rest => readHighCount flags low (flags.skip rest)
    | '}' :: rest => .ok (.repetition low (some low), rest)
    | _ => .error .unclosedCount
  return (token, dropLazy (flags.skip rest))

/-! ### Groups -/

/-- Whether a character can begin a group's name. -/
def isNameStart (c : Char) : Bool :=
  c == '_' || alphabetic.contains c

/-- Whether a character can be part of a group's name. -/
def isNameCharacter (c : Char) : Bool :=
  isNameStart c || c == '.' || c == '[' || c == ']' || numeric.contains c

/-- Reads the name of a group up to its closing angle bracket. -/
def readGroupName (flags : Flags) (text : List Char) : Except SyntaxFault (Token × List Char) :=
  let name := text.takeWhile (· != '>')
  match text.drop name.length with
  | '>' :: rest =>
    if name.head?.any isNameStart && name.all isNameCharacter then
      .ok (.groupOpen flags true (some name), rest)
    else .error .groupNameInvalid
  | _ => .error .groupNameInvalid

/-- Reads what follows an opening parenthesis. -/
def readGroup (flags : Flags) (text : List Char) : Except SyntaxFault (Token × List Char) :=
  match text with
  | '?' :: '=' :: _ | '?' :: '!' :: _ | '?' :: '<' :: '=' :: _ | '?' :: '<' :: '!' :: _ =>
    .error .lookAround
  | '?' :: 'P' :: '<' :: rest | '?' :: '<' :: rest => readGroupName flags rest
  | '?' :: rest => do
    match ← flags.read [] rest with
    | (inner, _, ':' :: rest) => return (.groupOpen inner false none, rest)
    | (_, [], _) => .error .nothingToRepeat
    | (inner, _, rest) => return (.setFlags inner, rest.drop 1)
  | rest => .ok (.groupOpen flags true none, rest)

/-! ### Tokens -/

/-- Reads the token that a text begins with, if there is one. -/
def readToken (properties : Properties) (flags : Flags) (text : List Char) :
    Except SyntaxFault (Option (Token × List Char)) := do
  match flags.skip text with
  | [] => return none
  | '(' :: rest => return some (← readGroup flags (flags.skip rest))
  | ')' :: rest => return some (.groupClose, rest)
  | '|' :: rest => return some (.bar, rest)
  | '[' :: rest => do
    let (part, rest) ← readSet properties flags rest
    return some (.part (.one part.set) part.depth, rest)
  | '?' :: rest => return some (.repetition 0 (some 1), dropLazy rest)
  | '*' :: rest => return some (.repetition 0 none, dropLazy rest)
  | '+' :: rest => return some (.repetition 1 none, dropLazy rest)
  | '{' :: rest => return some (← readCounts flags rest)
  | '.' :: rest => return some (.part (← dot flags) 0, rest)
  | '^' :: rest => return some (.part (lineStart flags) 0, rest)
  | '$' :: rest => return some (.part (lineEnd flags) 0, rest)
  | '\\' :: rest => do
    let (escape, rest) ← readEscape properties flags rest
    return some (.part (escape.expression flags) 0, rest)
  | c :: rest => return some (.part (letter flags c) 0, rest)

end TokenMint.Regex
