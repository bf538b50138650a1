import TokenMint.Engine.Session
import TokenMint.Proofs.Cache.AtRest

/-!
# The plain engine

A `Plain` engine answers requests in the simplest way: it works the settings of a path out anew for
every request, and it carries nothing from one request to the next but a table of kept tokens and
the use of its source. It mints whenever it finds no tokens in the table that have not expired, and
tokens without a lifetime never come into the table (`Plain.answer`). It knows neither slots nor
generations and remembers no resolution. What it replies to a list of visits (`Plain.run`) is what an
engine is measured by.
-/

set_option autoImplicit false
set_option relaxedAutoImplicit false

namespace TokenMint

open Engine (Demand Reply)

/-- What a plain engine carries from one request to the next. -/
structure Plain where
  kept : Table Kept
  entropy : EntropyUse

/-- A request for the tokens of a path, and what the clock shows then. -/
structure Visit where
  path : String
  clock : Except TokenError Duration

namespace Plain

/-- Nothing is kept, and nothing has been drawn. -/
def initial : Plain :=
  ⟨.empty, .none⟩

/-- The chain of a path and its settings, if they are valid. -/
def resolve (engine : Engine) (path : String) : Except TokenError (Chain × Settings) := do
  let chain ← engine.tree.chain path
  let settings := chain.settings engine.root
  liftFault settings.validate
  return (chain, settings)

/-- The tokens for one demand: those in the table, or new ones. -/
def answer (engine : Engine) (now : Duration) (demand : Demand) (plain : Plain) :
    Except TokenError Served × Plain :=
  let lookup := demand.lookup now
  match lookup.find? plain.kept with
  | some kept => (.ok ⟨kept.minted, .hit⟩, plain)
  | none =>
    let (result, entropy) := demand.settings.mint engine.source demand.key now plain.entropy
    (result.map fun minted ↦ ⟨minted, lookup.outcome⟩, ⟨lookup.keep result plain.kept, entropy⟩)

/-- The tokens for all demands in order, up to the first that fails. -/
def answerAll (engine : Engine) (now : Duration) :
    List Demand → Plain → Except TokenError (List EmittedTokens) × Plain
  | [], plain => (.ok [], plain)
  | demand :: rest, plain =>
    match plain.answer engine now demand with
    | (.error error, plain) => (.error error, plain)
    | (.ok served, plain) =>
      let (emitted, plain) := answerAll engine now rest plain
      (emitted.map fun others ↦ demand.emitted served :: others, plain)

/-- The reply to a visit. -/
def reply (engine : Engine) (visit : Visit) (plain : Plain) : Reply × Plain :=
  match resolve engine visit.path with
  | .error error => (if error.isInactive then .ok none else .error error, plain)
  | .ok (chain, settings) =>
    if settings.admits visit.path then
      match visit.clock with
      | .error error => (.error error, plain)
      | .ok now =>
        let (emitted, plain) := plain.answerAll engine now (Demand.ofChain chain settings)
        (emitted.map Engine.emission?, plain)
    else (.ok none, plain)

/-- The replies to several visits, one after the other. -/
def run (engine : Engine) : List Visit → Plain → List Reply × Plain
  | [], plain => ([], plain)
  | visit :: rest, plain =>
    let (reply, plain) := plain.reply engine visit
    let (replies, plain) := run engine rest plain
    (reply :: replies, plain)

/-! ### How demands are met -/

variable {engine : Engine} {now : Duration} {demand : Demand} {plain : Plain}

theorem answer_of_find?_eq_some {kept : Kept}
    (hfind : (demand.lookup now).find? plain.kept = some kept) :
    plain.answer engine now demand = (.ok ⟨kept.minted, .hit⟩, plain) := by
  simp only [answer, hfind]

theorem answer_of_find?_eq_none (hfind : (demand.lookup now).find? plain.kept = none)
    {result : Except TokenError Minted} {entropy : EntropyUse}
    (hmint : demand.settings.mint engine.source demand.key now plain.entropy = (result, entropy)) :
    plain.answer engine now demand =
      (result.map fun minted ↦ ⟨minted, (demand.lookup now).outcome⟩,
        ⟨(demand.lookup now).keep result plain.kept, entropy⟩) := by
  simp only [answer, hfind, hmint]

theorem answerAll_of_error {error : TokenError} {after : Plain} (rest : List Demand)
    (hanswer : plain.answer engine now demand = (.error error, after)) :
    plain.answerAll engine now (demand :: rest) = (.error error, after) := by
  simp only [answerAll, hanswer]

theorem answerAll_of_ok {served : Served} {after : Plain} (rest : List Demand)
    (hanswer : plain.answer engine now demand = (.ok served, after)) :
    plain.answerAll engine now (demand :: rest) =
      ((after.answerAll engine now rest).1.map fun others ↦ demand.emitted served :: others,
        (after.answerAll engine now rest).2) := by
  simp only [answerAll, hanswer]

end Plain

end TokenMint
