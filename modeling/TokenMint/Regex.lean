import TokenMint.Regex.Search
import TokenMint.Regex.Size
import TokenMint.Regex.Token

/-!
# Regular expressions by their text

`Regex.read` reads the text of an expression: alternatives bind weakest, then sequences, then
repetitions, and parentheses group. It refuses what is nested too deeply and what takes too much
memory. Which characters have a property that the text names depends on the tables it is read with;
`Regex.ofString` takes the standard ones. An expression keeps its source text, and `matches?` asks
whether it matches anywhere in a text.
-/

set_option autoImplicit false
set_option relaxedAutoImplicit false

namespace TokenMint

/-- A regular expression together with the text it was read from. -/
structure Regex where
  /-- The text. -/
  source : String
  /-- What the text stands for. -/
  expression : Regex.Expression
  deriving DecidableEq

namespace Regex

/-- The number of levels that the written form may be nested. -/
def depthLimit : Nat :=
  250

/-- A part of the written form. -/
structure Part where
  /-- What the part stands for. -/
  expression : Expression
  /-- The number of levels that it is nested. -/
  depth : Nat
  /-- Whether a repetition may follow it. -/
  repeatable : Bool

/-- Parts as one: the part itself if there is only one, or a level above all of them. -/
def Part.join (compose : List Expression → Expression) : List Part → Part
  | [] => ⟨compose [], 0, true⟩
  | [part] => part
  | parts =>
    ⟨compose (parts.map Part.expression), (parts.map Part.depth).foldl max 0 + 1, true⟩

/-- The part of a group that has been read: the finished alternatives and the parts of the current
one, each with the last one first. -/
structure Frame where
  /-- The flags in force. -/
  flags : Flags
  /-- Whether the group's span is recorded. -/
  records : Bool
  alternatives : List Part
  parts : List Part

namespace Frame

/-- A group of which nothing has been read. -/
def start (flags : Flags) (records : Bool) : Frame :=
  ⟨flags, records, [], []⟩

/-- The current alternative as one part. -/
def alternative (frame : Frame) : Part :=
  Part.join Expression.sequence frame.parts.reverse

/-- What the group holds, as one part. -/
def content (frame : Frame) : Part :=
  Part.join Expression.choice (frame.alternative :: frame.alternatives).reverse

/-- The group as one part. -/
def part (frame : Frame) : Part :=
  let content := frame.content
  ⟨if frame.records then .group content.expression else content.expression, content.depth + 1, true⟩

/-- The group with one more part. -/
def push (frame : Frame) (part : Part) : Frame :=
  { frame with parts := part :: frame.parts }

end Frame

/-- The group being read, the groups around it, the innermost first, and the names of groups. -/
structure Reader where
  current : Frame
  outer : List Frame
  names : List (List Char)

namespace Reader

/-- The reader before a text. -/
def start : Reader :=
  ⟨.start .none false, [], []⟩

/-- The reader with another state of the group being read. -/
def within (reader : Reader) (frame : Frame) : Reader :=
  { reader with current := frame }

/-- The reader after one more token. -/
def step (reader : Reader) : Token → Except SyntaxFault Reader
  | .part expression depth => .ok (reader.within (reader.current.push ⟨expression, depth, true⟩))
  | .repetition low high =>
    match reader.current.parts with
    | [] => .error .nothingToRepeat
    | part :: earlier =>
      if part.repeatable then
        let copies := ⟨part.expression.repetition low high, part.depth + 1, true⟩
        .ok (reader.within { reader.current with parts := copies :: earlier })
      else .error .nothingToRepeat
  | .groupOpen flags records name =>
    if reader.names.any (some · == name) then .error .groupNameRepeated
    else .ok ⟨.start flags records, reader.current :: reader.outer, name.toList ++ reader.names⟩
  | .groupClose =>
    match reader.outer with
    | [] => .error .unopenedGroup
    | frame :: outer => .ok ⟨frame.push reader.current.part, outer, reader.names⟩
  | .bar =>
    let frame := reader.current
    .ok (reader.within
      { frame with alternatives := frame.alternative :: frame.alternatives, parts := [] })
  | .setFlags flags =>
    .ok (reader.within { reader.current.push ⟨.empty, 0, false⟩ with flags := flags })

/-- Reads tokens up to the end of the text. -/
def read (properties : Properties) : (length : Nat) → Reader → List Char →
    Except SyntaxFault Reader
  | 0, reader, _ => .ok reader
  | length + 1, reader, text => do
    match ← readToken properties reader.current.flags text with
    | none => return reader
    | some (token, rest) => read properties length (← reader.step token) rest

end Reader

/-- The expression that a text stands for. -/
def ofText (properties : Properties) (text : List Char) : Except SyntaxFault Expression := do
  let reader ← Reader.start.read properties text.length text
  if !reader.outer.isEmpty then .error .unclosedGroup
  else
    let content := reader.current.content
    if depthLimit < content.depth then .error .tooDeep
    else if content.expression.fits then return content.expression
    else .error .tooLarge

/-- The regular expression of a text, by tables of properties. -/
def read (properties : Properties) (source : String) : Except SyntaxFault Regex := do
  return ⟨source, ← ofText properties source.toList⟩

/-- The regular expression of a text. -/
def ofString (source : String) : Except SyntaxFault Regex :=
  read .standard source

/-- Whether the expression matches somewhere in the text. -/
def matches? (regex : Regex) (text : String) : Bool :=
  found regex.expression text.toList

end Regex

end TokenMint
