import TokenMint.Regex.Escape

/-!
# Sets in brackets

Brackets list characters, ranges, escapes and the named classes of ASCII. Further brackets can stand
inside, and the operators of intersection, difference and symmetric difference take all that stands
between them, from left to right. `readSet` reads a set after its opening bracket; the brackets that
are open at a time are kept as a stack.
-/

set_option autoImplicit false
set_option relaxedAutoImplicit false

namespace TokenMint.Regex

/-- The operators between the parts of a set. -/
inductive SetOperator where
  | intersection
  | difference
  | symmetricDifference

/-- What an operator makes of two sets. -/
def SetOperator.apply : SetOperator → CharSet → CharSet → CharSet
  | intersection => CharSet.intersection
  | difference => CharSet.difference
  | symmetricDifference => CharSet.symmetricDifference

/-- The ranges of the named classes of ASCII. -/
def namedClasses : List (String × List (Char × Char)) :=
  [("alnum", [('0', '9'), ('A', 'Z'), ('a', 'z')]),
    ("alpha", [('A', 'Z'), ('a', 'z')]),
    ("ascii", [('\x00', '\x7f')]),
    ("blank", [('\t', '\t'), (' ', ' ')]),
    ("cntrl", [('\x00', '\x1f'), ('\x7f', '\x7f')]),
    ("digit", [('0', '9')]),
    ("graph", [('!', '~')]),
    ("lower", [('a', 'z')]),
    ("print", [(' ', '~')]),
    ("punct", [('!', '/'), (':', '@'), ('[', '\x60'), ('\x7b', '~')]),
    ("space", [('\t', '\r'), (' ', ' ')]),
    ("upper", [('A', 'Z')]),
    ("word", [('0', '9'), ('A', 'Z'), ('_', '_'), ('a', 'z')]),
    ("xdigit", [('0', '9'), ('A', 'F'), ('a', 'f')])]

/-- A part of a set, with the number of levels that it is nested. -/
structure SetPart where
  set : CharSet
  depth : Nat

/-- A bracket of which a part has been read: the parts since the last operator, the last one first,
and that operator with what stands before it, if there is one. -/
structure OpenSet where
  negated : Bool
  left : Option (SetPart × SetOperator)
  parts : List SetPart

namespace OpenSet

/-- The parts since the last operator, as one part. -/
def operand (frame : OpenSet) : SetPart :=
  let set := frame.parts.foldl (fun set part ↦ part.set.union set) CharSet.none
  match frame.parts with
  | [] => ⟨set, 0⟩
  | [part] => ⟨set, part.depth⟩
  | parts => ⟨set, (parts.map SetPart.depth).foldl max 0 + 1⟩

/-- All that has been read, as one part. -/
def value (flags : Flags) (frame : OpenSet) : SetPart :=
  let right := frame.operand
  match frame.left with
  | none => right
  | some (left, operator) =>
    ⟨operator.apply (flags.cased left.set) (flags.cased right.set),
      max left.depth right.depth + 1⟩

/-- The set with one more part. -/
def push (frame : OpenSet) (set : CharSet) (depth : Nat) : OpenSet :=
  { frame with parts := ⟨set, depth⟩ :: frame.parts }

/-- The set after an operator. -/
def operate (flags : Flags) (frame : OpenSet) (operator : SetOperator) : OpenSet :=
  ⟨frame.negated, some (frame.value flags, operator), []⟩

/-- The set after its closing bracket. -/
def close (flags : Flags) (frame : OpenSet) : Except SyntaxFault SetPart := do
  let inner := frame.value flags
  return ⟨← flags.admitted frame.negated (flags.cased inner.set), inner.depth + 1⟩

end OpenSet

/-- Reads a named class after its opening bracket, if there is one. -/
def readNamedClass (flags : Flags) (text : List Char) :
    Except SyntaxFault (Option (CharSet × List Char)) :=
  match text with
  | ':' :: rest =>
    let (negated, rest) := match rest with
      | '^' :: rest => (true, rest)
      | rest => (false, rest)
    let name := rest.takeWhile (· != ':')
    match rest.drop name.length, namedClasses.lookup (String.ofList name) with
    | ':' :: ']' :: rest, some ranges => do
      let set := ranges.foldr (fun range set ↦ set.insert range.1.toNat range.2.toNat) CharSet.none
      return some (← flags.admitted negated (flags.cased set), rest)
    | _, _ => .ok none
  | _ => .ok none

/-- Reads the start of a set after its opening bracket. Hyphens at the start stand for themselves,
and so does a closing bracket. -/
def readSetStart (flags : Flags) (text : List Char) : OpenSet × List Char :=
  let (negated, text) := match flags.skip text with
    | '^' :: rest => (true, flags.skip rest)
    | text => (false, text)
  match flags.takeRun (· == '-') text with
  | ([], ']' :: rest) => (⟨negated, none, [⟨CharSet.single ']', 0⟩]⟩, rest)
  | (hyphens, rest) =>
    (⟨negated, none, hyphens.map fun hyphen ↦ ⟨CharSet.single hyphen, 0⟩⟩, rest)

/-- Reads one character of a set, or an escape. -/
def readMember (properties : Properties) (flags : Flags) :
    List Char → Except SyntaxFault (Escape × List Char)
  | [] => .error .unclosedSet
  | '\\' :: rest => readEscape properties flags rest
  | c :: rest => .ok (.literal c, rest)

/-- The characters between two bounds. Where only ASCII counts, both must be of ASCII. -/
def rangeBetween (flags : Flags) (low high : Char) : Except SyntaxFault CharSet :=
  if high.toNat < low.toNat then .error .reversedRange
  else if flags.ascii && 0x80 ≤ high.toNat then .error .notAscii
  else .ok (CharSet.none.insert low.toNat high.toNat)

/-- The characters of an escape. -/
def Escape.members (flags : Flags) : Escape → Except SyntaxFault CharSet
  | literal c => rangeBetween flags c c
  | set members => .ok members
  | look _ => .error .lookInSet

/-- The characters between two escapes. -/
def Escape.membersUpTo (flags : Flags) : (low high : Escape) → Except SyntaxFault CharSet
  | .literal low, .literal high => rangeBetween flags low high
  | _, _ => .error .setAsBound

/-- Reads a part of a set: a member, or two of them with a hyphen between. A hyphen before a closing
bracket or before another hyphen joins nothing. -/
def readSetPart (properties : Properties) (flags : Flags) (text : List Char) :
    Except SyntaxFault (CharSet × List Char) := do
  let (low, rest) ← readMember properties flags text
  match flags.skip rest with
  | '-' :: more =>
    match flags.skip more with
    | ']' :: _ | '-' :: _ => return (← low.members flags, '-' :: more)
    | text => do
      let (high, rest) ← readMember properties flags text
      return (← low.membersUpTo flags high, rest)
  | rest => return (← low.members flags, rest)

/-- Reads on in the innermost of the open brackets. -/
def readParts (properties : Properties) (flags : Flags) : (length : Nat) → OpenSet →
    List OpenSet → List Char → Except SyntaxFault (SetPart × List Char)
  | 0, _, _, _ => .error .unclosedSet
  | length + 1, inner, outer, text =>
    match flags.skip text, outer with
    | [], _ => .error .unclosedSet
    | ']' :: rest, [] => do return (← inner.close flags, rest)
    | ']' :: rest, frame :: outer => do
      let part ← inner.close flags
      readParts properties flags length (frame.push part.set part.depth) outer rest
    | '[' :: rest, outer => do
      match ← readNamedClass flags rest with
      | some (set, rest) => readParts properties flags length (inner.push set 0) outer rest
      | none =>
        let (frame, rest) := readSetStart flags rest
        readParts properties flags length frame (inner :: outer) rest
    | '&' :: '&' :: rest, outer =>
      readParts properties flags length (inner.operate flags .intersection) outer rest
    | '-' :: '-' :: rest, outer =>
      readParts properties flags length (inner.operate flags .difference) outer rest
    | '~' :: '~' :: rest, outer =>
      readParts properties flags length (inner.operate flags .symmetricDifference) outer rest
    | text, outer => do
      let (set, rest) ← readSetPart properties flags text
      readParts properties flags length (inner.push set 0) outer rest

/-- Reads a set after its opening bracket. -/
def readSet (properties : Properties) (flags : Flags) (text : List Char) :
    Except SyntaxFault (SetPart × List Char) :=
  let (frame, rest) := readSetStart flags text
  readParts properties flags (rest.length + 1) frame [] rest

end TokenMint.Regex
