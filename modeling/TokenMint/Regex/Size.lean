import TokenMint.Regex.ByteRange
import TokenMint.Regex.Compose

/-!
# The size of an expression

A matcher runs an expression as an automaton over the bytes of a text, forward from a start and
backward from an end, and both automata must fit into a bounded amount of memory. `Expression.size`
counts the bytes that the states of one of them take: copies of a repetition are written out, sets
that are not all ASCII branch over the bytes of their characters, and literal alternatives share
what they begin with.
-/

set_option autoImplicit false
set_option relaxedAutoImplicit false

namespace TokenMint.Regex

/-- Which way an automaton reads a text. -/
inductive Direction where
  | forward
  | backward
  deriving DecidableEq

/-- The bytes of a state. -/
def stateSize : Nat :=
  32

/-- The bytes of a transition on a range of bytes, where a state has several. -/
def transitionSize : Nat :=
  8

/-- The bytes of a branch that reads nothing. -/
def branchSize : Nat :=
  4

/-- The bytes of a state that branches so many times without reading. -/
def forkSize (branches : Nat) : Nat :=
  stateSize + branchSize * branches

/-- The bytes that the larger of the two automata may take. -/
def sizeLimit : Nat :=
  10 * (1 <<< 20)

/-! ### Sets -/

/-- Sequences with the same first range, given by that range and what follows it. -/
def byFirstRange : List ByteRanges → List ((Nat × Nat) × List ByteRanges)
  | [] => []
  | [] :: rest => byFirstRange rest
  | (range :: tail) :: rest =>
    match byFirstRange rest with
    | (other, tails) :: more =>
      if other = range then (range, tail :: tails) :: more
      else (range, [tail]) :: (other, tails) :: more
    | [] => [(range, [tail])]

/-- The sum of several sizes. -/
def total (sizes : List Nat) : Nat :=
  sizes.foldl (· + ·) 0

/-- What can be left of a list of sequences, while there is something left. -/
def remainders : (length : Nat) → List ByteRanges → List (List ByteRanges)
  | 0, _ => []
  | length + 1, list =>
    let branches := byFirstRange list
    if branches.isEmpty then []
    else list :: branches.flatMap fun branch ↦ remainders length branch.2

/-- The number of different non-empty beginnings of the sequences of a list. -/
def beginnings : (length : Nat) → List ByteRanges → Nat
  | 0, _ => 0
  | length + 1, list =>
    total ((byFirstRange list).map fun branch ↦ 1 + beginnings length branch.2)

/-- The bytes that the longest characters have. -/
def longestForm : Nat :=
  4

/-- The size of a set. A character takes a state for each of its bytes, and ASCII characters share
one state. Forward, equal remainders share a state; backward, equal beginnings do. -/
def CharSet.size (direction : Direction) (set : CharSet) : Nat :=
  match set.only? with
  | some code => stateSize * byteLength code
  | .none =>
    if set.isAscii then 2 * stateSize + transitionSize * set.ranges.length
    else
      let list := set.byteRanges
      match direction with
      | .forward =>
        stateSize + total ((remainders longestForm list).eraseDups.map fun remainder ↦
          stateSize + transitionSize * (byFirstRange remainder).length)
      | .backward => stateSize * (2 + beginnings longestForm list) + branchSize * list.length

/-! ### Literal alternatives -/

/-- The bytes of an expression that is one definite text. -/
def Expression.literal? (expression : Expression) : Option (List Nat) :=
  match expression.parts with
  | [] => none
  | parts => (parts.mapM Expression.letter?).map fun codes ↦ codes.flatMap bytesOfCode

/-- Puts a text under its first byte. -/
def addText (byte : Nat) (tail : List Nat) :
    List (Nat × List (List Nat)) → List (Nat × List (List Nat))
  | [] => [(byte, [tail])]
  | (other, tails) :: rest =>
    if other = byte then (other, tails ++ [tail]) :: rest
    else (other, tails) :: addText byte tail rest

/-- The stretches of a list of texts between those texts that end here, grouped by first byte. A
text that ends here ends a stretch, except that several before any longer text end only one. -/
def stretches : List (List Nat) → List (List (Nat × List (List Nat)))
  | texts => texts.foldl
    (fun done text ↦
      match text, done with
      | [], [[], []] => done
      | [], _ => done ++ [[]]
      | byte :: tail, _ => done.dropLast ++ [addText byte tail (done.getLastD [])])
    [[]]

/-- The size of a tree of texts below one node. -/
def treeSize : (length : Nat) → List (List Nat) → Nat
  | 0, _ => 0
  | length + 1, texts =>
    if texts.all List.isEmpty then 0
    else
      let pieces := stretches texts
      let full := pieces.filter fun piece ↦ !piece.isEmpty
      let reading := full.map fun piece ↦
        if piece.length = 1 then stateSize else stateSize + transitionSize * piece.length
      let below := full.flatten.map fun branch ↦ treeSize length branch.2
      forkSize (full.length + (pieces.length - 1)) + total reading + total below

/-- The size of a choice among definite texts, which share what they begin with in reading order. -/
def literalChoiceSize (direction : Direction) (texts : List (List Nat)) : Nat :=
  let texts := match direction with
    | .forward => texts
    | .backward => texts.map List.reverse
  stateSize + treeSize ((texts.map List.length).foldl max 0 + 1) texts

/-! ### Expressions -/

namespace Expression

/-- The bytes of the branch that leads to an alternative of a choice. -/
def leadSize (alternative : Bool) : Nat :=
  if alternative then branchSize else 0

/-- The bytes that recording a span takes: only the forward automaton does it. -/
def recordSize (direction : Direction) : Nat :=
  if direction = .forward then 2 * stateSize else 0

/-- The least number of characters in a span, if there can be a span at all. -/
def shortest? : Expression → Option Nat
  | empty => some 0
  | one set => if set.ranges.isEmpty then none else some 1
  | look _ => some 0
  | append first second => do return (← first.shortest?) + (← second.shortest?)
  | either first second => do return min (← first.shortest?) (← second.shortest?)
  | group body => body.shortest?
  | repeated body low _ => do return low * (← body.shortest?)

/-- The size of copies of a body of the given size. -/
def copiesSize (body : Expression) (size low : Nat) (high : Option Nat) : Nat :=
  match low, high with
  | 0, none =>
    if body.shortest?.any (0 < ·) then forkSize 2 + size else 2 * forkSize 2 + stateSize + size
  | low, none => low * size + forkSize 2
  | low, some high =>
    let required := if low = 0 then stateSize else low * size
    if low = high then required
    else if low = 0 ∧ high = 1 then stateSize + forkSize 2 + size
    else required + stateSize + (high - low) * (forkSize 2 + size)

/-- The size of an expression; as an alternative of a choice, with the branch that leads to it. -/
def partSize (direction : Direction) (alternative : Bool) : Expression → Nat
  | either first second =>
    if alternative then first.partSize direction true + second.partSize direction true
    else
      match (either first second).alternatives.mapM literal? with
      | some texts => literalChoiceSize direction texts
      | none =>
        2 * stateSize + first.partSize direction true + second.partSize direction true
  | empty => leadSize alternative + stateSize
  | one set => leadSize alternative + set.size direction
  | look _ => leadSize alternative + stateSize
  | append first second =>
    leadSize alternative + first.partSize direction false + second.partSize direction false
  | group body =>
    leadSize alternative + recordSize direction + body.partSize direction false
  | repeated body low high =>
    leadSize alternative + body.copiesSize (body.partSize direction false) low high

/-- Whether every span begins at the place of the condition, before any character. -/
def beginsWith (condition : Look) : Expression → Bool
  | empty | one _ => false
  | look other => other = condition
  | append first second =>
    first.beginsWith condition || (first.spansNothing && second.beginsWith condition)
  | either first second => first.beginsWith condition && second.beginsWith condition
  | group body => body.beginsWith condition
  | repeated body low _ => 0 < low && body.beginsWith condition

/-- Whether every span ends at the place of the condition, after any character. -/
def endsWith (condition : Look) : Expression → Bool
  | empty | one _ => false
  | look other => other = condition
  | append first second =>
    second.endsWith condition || (second.spansNothing && first.endsWith condition)
  | either first second => first.endsWith condition && second.endsWith condition
  | group body => body.endsWith condition
  | repeated body low _ => 0 < low && body.endsWith condition

/-- The size of the automaton that reads one way. One that may begin anywhere has a loop in front,
and the forward one records the whole span. -/
def size (direction : Direction) (expression : Expression) : Nat :=
  let fixed := match direction with
    | .forward => expression.beginsWith .textStart
    | .backward => expression.endsWith .textEnd
  let front := if fixed then stateSize else forkSize 2 + stateSize + stateSize + transitionSize
  front + recordSize direction + expression.partSize direction false + stateSize

/-- Whether both automata fit. -/
def fits (expression : Expression) : Bool :=
  expression.size .forward ≤ sizeLimit && expression.size .backward ≤ sizeLimit

end Expression

end TokenMint.Regex
