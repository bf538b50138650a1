import TokenMint.Regex.Expression

/-!
# Putting expressions together

Expressions are composed into a simple form: `sequence` leaves out empty parts, `repetition` drops
counts that change nothing, and `choice` joins alternatives that are single characters or sets into
one set and puts what all alternatives begin with in front. The composed expression matches what the
parts say; its form decides how much room its automaton takes.
-/

set_option autoImplicit false
set_option relaxedAutoImplicit false

namespace TokenMint.Regex

namespace Expression

/-- The parts of a sequence. -/
def parts : Expression → List Expression
  | empty => []
  | append first second => first.parts ++ second.parts
  | other => [other]

/-- The alternatives of a choice. -/
def alternatives : Expression → List Expression
  | either first second => first.alternatives ++ second.alternatives
  | other => [other]

/-- Expressions in a row. -/
def appendAll : List Expression → Expression
  | [] => empty
  | [last] => last
  | first :: rest => append first (appendAll rest)

/-- One of several expressions; of none, an expression that matches nothing. -/
def eitherAll : List Expression → Expression
  | [] => one CharSet.none
  | [last] => last
  | first :: rest => either first (eitherAll rest)

/-- Expressions in a row, without the empty ones. -/
def sequence (items : List Expression) : Expression :=
  appendAll (items.flatMap parts)

/-- The members, if the expression is a set. -/
def members? : Expression → Option CharSet
  | one set => some set
  | _ => none

/-- The code point, if the expression is one definite character. -/
def letter? (expression : Expression) : Option Nat :=
  expression.members?.bind CharSet.only?

/-- Whether every span is empty. -/
def spansNothing : Expression → Bool
  | empty => true
  | one _ => false
  | look _ => true
  | append first second => first.spansNothing && second.spansNothing
  | either first second => first.spansNothing && second.spansNothing
  | group body => body.spansNothing
  | repeated body _ _ => body.spansNothing

/-- Copies of an expression in a row. One copy is as good as many if it can only span nothing. -/
def repetition (body : Expression) (low : Nat) (high : Option Nat) : Expression :=
  let few := body.spansNothing
  let low := if few then min low 1 else low
  let high := if few then some (min (high.getD 1) 1) else high
  if low = 0 ∧ high = some 0 then empty
  else if low = 1 ∧ high = some 1 then body
  else repeated body low high

/-- The parts of a sequence, definite characters that stand together as one block. -/
def blocks : List Expression → List (List Expression)
  | [] => []
  | part :: rest =>
    match blocks rest with
    | (next :: block) :: more =>
      if part.letter?.isSome && next.letter?.isSome then (part :: next :: block) :: more
      else [part] :: (next :: block) :: more
    | others => [part] :: others

/-- Whether an expression records a span. -/
def records : Expression → Bool
  | empty | one _ | look _ => false
  | append first second => first.records || second.records
  | either first second => first.records || second.records
  | group _ => true
  | repeated body _ _ => body.records

/-- The longest list that both lists begin with. -/
def commonStart : List (List Expression) → List (List Expression) → List (List Expression)
  | block :: first, other :: second =>
    if block = other && !block.any records then block :: commonStart first second else []
  | _, _ => []

/-- The blocks with which all alternatives begin, if each of them has more than one block. -/
def sharedStart : List (List (List Expression)) → List (List Expression)
  | [] => []
  | first :: rest =>
    if (first :: rest).all fun alternative ↦ 1 < alternative.length then
      rest.foldl commonStart first
    else []

/-- A choice among alternatives, as one set if that is possible. -/
def joined (items : List Expression) : Expression :=
  let all := items.flatMap alternatives
  let sets := all.filterMap members?
  let letters := all.filterMap letter?
  if sets.length = all.length && (letters.isEmpty || letters.length = all.length) then
    one (sets.foldr CharSet.union CharSet.none)
  else eitherAll all

/-- A choice among alternatives, with what all of them begin with in front. -/
def choice (items : List Expression) : Expression :=
  let all := (items.flatMap alternatives).map fun item ↦ blocks item.parts
  let shared := sharedStart all
  if shared.isEmpty then joined items
  else
    let rests := all.map fun alternative ↦ sequence (alternative.drop shared.length).flatten
    sequence (shared.flatten ++ [joined rests])

end Expression

end TokenMint.Regex
