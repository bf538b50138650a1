import TokenMint.Regex.Expression

/-!
# Searching a text

A set of positions of a text is a number: bit `n` stands for the position with `n` characters after
it. An expression is first fitted to a text, which gives a `Plan`: the places of each set and look
are worked out, and for a repetition the `rows`, which say for each position where one copy of the
body that starts there can stop. `Plan.run` then sends a set of starts to the set of stops, so that
the work grows with the length of the text and never with the number of ways to match it. `found`
asks whether there is a span anywhere in the text.
-/

set_option autoImplicit false
set_option relaxedAutoImplicit false

namespace TokenMint.Regex

/-- An expression fitted to a text. -/
inductive Plan where
  | empty
  /-- One character, if its end is among the places. -/
  | one (places : Nat)
  /-- Nothing, at one of the places. -/
  | look (places : Nat)
  | append (first second : Plan)
  | either (first second : Plan)
  /-- Exactly so many copies. -/
  | power (rows : Array Nat) (count : Nat)
  /-- At most so many copies. -/
  | upTo (rows : Array Nat) (count : Nat)
  /-- Any number of copies, given by the rows for any number of copies. -/
  | star (rows : Array Nat)

/-- The set of one position. -/
def position (after : Nat) : Nat :=
  1 <<< after

/-- The members of the first set that are not in the second. -/
def without (first second : Nat) : Nat :=
  first ^^^ (first &&& second)

/-- Where the copies that start at a set of positions stop. -/
def stops (rows : Array Nat) : (members : Nat) → Nat → Nat
  | 0, _ => 0
  | members + 1, starts =>
    if starts = 0 then 0
    else rows.getD starts.log2 0 ||| stops rows members (without starts (position starts.log2))

/-- The union of the rows of a set of positions, for rows that hold with a position all that can be
reached from it: positions that have been reached need no row. -/
def reached (rows : Array Nat) : (members starts done : Nat) → Nat
  | 0, _, done => done
  | members + 1, starts, done =>
    if starts = 0 then done
    else
      let row := rows.getD starts.log2 0
      reached rows members (without starts row) (done ||| row)

/-- The rows for any number of copies, from the end of the text on. -/
def closure (rows : Array Nat) : Array Nat :=
  rows.foldl
    (fun done row ↦
      let here := position done.size
      done.push (reached done rows.size (row &&& (here - 1)) here))
    #[]

/-- Takes a step so many times, or until it changes nothing. -/
def iterate (step : Nat → Nat) : (count places : Nat) → Nat
  | 0, places => places
  | count + 1, places =>
    let next := step places
    if next = places then places else iterate step count next

/-- Adds what a step reaches from the newest positions, so many times or until there are no new
ones. -/
def gather (step : Nat → Nat) : (count done newest : Nat) → Nat
  | 0, done, _ => done
  | count + 1, done, newest =>
    if newest = 0 then done
    else
      let next := without (step newest) done
      gather step count (done ||| next) next

/-- The positions at which spans that start in a set of positions stop. -/
def Plan.run : Plan → Nat → Nat
  | empty, starts => starts
  | one places, starts => (starts >>> 1) &&& places
  | look places, starts => starts &&& places
  | append first second, starts => second.run (first.run starts)
  | either first second, starts => first.run starts ||| second.run starts
  | power rows count, starts => iterate (stops rows rows.size) count starts
  | upTo rows count, starts => gather (stops rows rows.size) count starts starts
  | star rows, starts => reached rows rows.size starts 0

/-- The number of bits that are gathered before they join a set. -/
def packWidth : Nat :=
  32

/-- The set with the given bits, the highest first. They are gathered in a small number, `width` of
them so far, before they join the larger one. -/
def pack : (places gathered width : Nat) → List Bool → Nat
  | places, gathered, width, [] => places <<< width ||| gathered
  | places, gathered, width, bit :: rest =>
    if width < packWidth then pack places (2 * gathered + bit.toNat) (width + 1) rest
    else pack (places <<< width ||| gathered) bit.toNat 1 rest

/-- The places after the characters of a text that are in a set. -/
def placesAfter (set : CharSet) (text : List Char) : Nat :=
  pack 0 0 0 (text.map set.contains)

/-- Whether a condition holds at each position of a text. -/
def holdsAt (condition : Look) : (before : Option Char) → List Char → List Bool
  | before, [] => [condition.holds before none]
  | before, c :: rest => condition.holds before (some c) :: holdsAt condition (some c) rest

/-- The places of a text at which a condition holds. -/
def placesOfLook (condition : Look) (text : List Char) : Nat :=
  pack 0 0 0 (holdsAt condition none text)

/-- The expression fitted to a text. More copies than the text has positions change nothing. -/
def fit (text : List Char) : Expression → Plan
  | .empty => .empty
  | .one set => .one (placesAfter set text)
  | .look condition => .look (placesOfLook condition text)
  | .append first second => .append (fit text first) (fit text second)
  | .either first second => .either (fit text first) (fit text second)
  | .group body => fit text body
  | .repeated body low high =>
    let plan := fit text body
    let size := text.length + 1
    let rows := (Array.range size).map fun after ↦ plan.run (position after)
    let more := match high with
      | some bound => .upTo rows (min (bound - low) size)
      | none => .star (closure rows)
    .append (.power rows (min low size)) more

/-- Whether an expression has a span anywhere in the text. -/
def found (expression : Expression) (text : List Char) : Bool :=
  (fit text expression).run (position (text.length + 1) - 1) != 0

end TokenMint.Regex
