import TokenMint.Emission
import TokenMint.Engine.Resolution

/-!
# Requests

A request for the tokens of a path asks the cache for the tokens of the chain of scopes and then for
those of each named token. It runs until it is answered, until it has announced a draw of random
bytes, or until it has to wait for a generation of another request (`Engine.Progress`). Requests can
therefore overlap: what happens between `Engine.start`, `Engine.continueDraw` and
`Engine.continueWait` is up to other requests. `Engine.mint` runs a request that nothing overlaps.
-/

set_option autoImplicit false
set_option relaxedAutoImplicit false

namespace TokenMint

/-- Whether the settings let a path have tokens. -/
def Settings.admits (settings : Settings) (path : String) : Bool :=
  settings.enabled && settings.onlyFor.all fun filter ↦ filter.matches? path

namespace Engine

/-- Tokens that a request needs: their key and the settings to mint them with. -/
structure Demand where
  key : String
  settings : Settings
  deriving DecidableEq

namespace Demand

/-- What the cache is asked for. -/
def lookup (demand : Demand) (now : Duration) : Lookup :=
  ⟨demand.key, now, demand.settings.ttl⟩

/-- The tokens and where they go. -/
def emitted (demand : Demand) (served : Served) : EmittedTokens :=
  ⟨demand.key, served, demand.settings.outputHeader, demand.settings.outputVariable⟩

/-- The tokens that a chain needs: its own and the named ones. -/
def ofChain (chain : Chain) (settings : Settings) : List Demand :=
  ⟨chain.key, settings⟩ :: settings.namedTokens.map fun token ↦
    ⟨namedKey chain.key token.name, settings.named token⟩

end Demand

/-- A request with one demand in hand. -/
structure Request where
  now : Duration
  /-- What the demands before have been answered with. -/
  finished : List EmittedTokens
  demand : Demand
  /-- The demands to come. -/
  pending : List Demand

/-- An announced draw of the bytes for the demand in hand. -/
structure Draw where
  number : Nat
  /-- What the request holds for the generation, if the tokens are to be kept. -/
  guard : Option Guard

/-- The answer to a request: no tokens may be due. -/
abbrev Reply := Except TokenError (Option Emission)

/-- How far a request has come. -/
inductive Progress where
  | answered (reply : Reply)
  | drawing (draw : Draw) (request : Request)
  | waiting (generation : Nat) (request : Request)

/-- The emission of the tokens of all demands, of which the first is the chain. -/
def emission? : List EmittedTokens → Option Emission
  | [] => none
  | main :: named => some ⟨main, named⟩

/-- Reports a demand that failed, and with it the request. -/
def fail (key : String) (error : TokenError) (state : State) : Progress × State :=
  (.answered (.error error), state.recordFailure key error)

/-- Works on demands until one of them has to draw or to wait. -/
def proceed (now : Duration) (finished : List EmittedTokens) :
    List Demand → State → Progress × State
  | [], state => (.answered (.ok (emission? finished)), state)
  | demand :: pending, state =>
    let lookup := demand.lookup now
    match state.cache.consult lookup with
    | (.served served, cache) =>
      proceed now (finished ++ [demand.emitted served]) pending
        ({ state with cache := cache }.recordServed served)
    | (.wait generation, cache) =>
      (.waiting generation ⟨now, finished, demand, pending⟩, { state with cache := cache })
    | (.generate guard, cache) =>
      match demand.settings.validate with
      | .error fault =>
        let error := TokenError.ofFault fault
        let (_, cache) := cache.deliver lookup guard (.error error)
        fail demand.key error { state with cache := cache }
      | .ok () =>
        let (number, entropy) := state.entropy.announce demand.settings.bytesPerDraw
        (.drawing ⟨number, guard⟩ ⟨now, finished, demand, pending⟩,
          { state with cache := cache, entropy := entropy })

/-- Goes on after the demand in hand has been answered. -/
def conclude (request : Request) (answer : Except TokenError Served) (state : State) :
    Progress × State :=
  match answer with
  | .error error => fail request.demand.key error state
  | .ok served =>
    proceed request.now (request.finished ++ [request.demand.emitted served]) request.pending
      (state.recordServed served)

/-- Draws the announced bytes, makes the tokens and goes on. -/
def continueDraw (engine : Engine) (draw : Draw) (request : Request) (state : State) :
    Progress × State :=
  let settings := request.demand.settings
  let (bytes, entropy) := engine.source.draw draw.number settings.bytesPerDraw state.entropy
  let result := bytes.bind (settings.assemble request.demand.key request.now)
  let (answer, cache) :=
    state.cache.deliver (request.demand.lookup request.now) draw.guard result
  conclude request answer { state with cache := cache, entropy := entropy }

/-- Goes on with what the awaited generation came to, once it is done. -/
def continueWait (generation : Nat) (request : Request) (state : State) : Progress × State :=
  match state.cache.await? generation with
  | none => (.waiting generation request, state)
  | some answer => conclude request answer state

/-- Starts the request for a path. The clock is read only if tokens are due. -/
def start (engine : Engine) (path : String) (state : State) : Progress × State :=
  match engine.resolve path state with
  | (.error error, state) =>
    if error.isInactive then (.answered (.ok none), state.record .inactive)
    else (.answered (.error error), state)
  | (.ok (chain, settings), state) =>
    if settings.admits path then
      match state.readClock state.clock with
      | (.error error, state) => (.answered (.error error), state)
      | (.ok now, state) => proceed now [] (Demand.ofChain chain settings) state
    else (.answered (.ok none), state.record .inactive)

/-- The most draws that a request may still make. -/
def Progress.drawsLeft : Progress → Nat
  | .drawing _ request => request.pending.length + 1
  | _ => 0

/-- A request draws at most once for each of its demands. -/
theorem drawsLeft_proceed_le (now : Duration) (finished : List EmittedTokens)
    (demands : List Demand) (state : State) :
    (proceed now finished demands state).1.drawsLeft ≤ demands.length := by
  induction demands generalizing finished state with
  | nil => exact Nat.le_refl 0
  | cons demand pending ih =>
    rw [proceed]
    split
    · exact Nat.le_trans (ih _ _) (Nat.le_succ _)
    · exact Nat.zero_le _
    · split
      · exact Nat.zero_le _
      · exact Nat.le_refl _

theorem drawsLeft_conclude_le (request : Request) (answer : Except TokenError Served)
    (state : State) : (conclude request answer state).1.drawsLeft ≤ request.pending.length := by
  cases answer with
  | error error => exact Nat.zero_le _
  | ok served => exact drawsLeft_proceed_le _ _ _ _

/-- Makes at most so many draws one after the other. -/
def drawUpTo (engine : Engine) : Nat → Progress → State → Progress × State
  | count + 1, .drawing draw request, state =>
    let (progress, state) := engine.continueDraw draw request state
    drawUpTo engine count progress state
  | _, progress, state => (progress, state)

/-- Runs a request until it is answered or has to wait. -/
def advance (engine : Engine) (progress : Progress) (state : State) : Progress × State :=
  engine.drawUpTo progress.drawsLeft progress state

/-- Runs the request for a path until it is answered or has to wait; it never waits unless another
request is under way. -/
def mint (engine : Engine) (path : String) (state : State) : Progress × State :=
  let (progress, state) := engine.start path state
  engine.advance progress state

/-- Whether a reply leads to tokens being written, and everything that is written. -/
def handle : Reply → Except TokenError Bool × List Assignment
  | .error error => (.error error, [])
  | .ok none => (.ok false, [])
  | .ok (some emission) => (.ok true, emission.assignments)

end Engine

end TokenMint
