import TokenMint.Cache
import TokenMint.Engine
import TokenMint.Metrics

/-!
# The state of an engine

What changes while an engine works is its `Engine.State`: what is kept, what has been resolved, how
far the source is used, what the clock shows and how often it was read, what has been counted, and
the notices to the operator. `State.readClock` is the one way to learn the time, as
`EntropyUse.announce` is the one way to ask for bytes, so that the state tells how often either was
done.
-/

set_option autoImplicit false
set_option relaxedAutoImplicit false

namespace TokenMint.Engine

/-- The settings that a chain resolves to, or why it gets no tokens. -/
abbrev Resolution := Except TokenError Settings

/-- What changes while an engine works. -/
structure State where
  cache : Cache
  /-- The resolutions of the chains that have occurred, by key. -/
  resolutions : Table Resolution
  entropy : EntropyUse
  /-- What the clock shows, or why it cannot be read. -/
  clock : Except TokenError Duration
  /-- How often the clock has been read. -/
  clockReadings : Nat
  collector : Collector
  /-- The notices so far, the oldest first. -/
  notices : List Notice

namespace State

/-- The state of an engine that has not been used. -/
def initial (policy : Policy) (clock : Except TokenError Duration) (collector : Collector) :
    State :=
  ⟨.empty policy, .empty, .none, clock, 0, collector, []⟩

/-- Reads the clock when it shows what is given. -/
def readClock (shown : Except TokenError Duration) (state : State) :
    Except TokenError Duration × State :=
  (shown, { state with clockReadings := state.clockReadings + 1 })

/-- Tells the collector of an event. -/
def record (state : State) (event : Event) : State :=
  { state with collector := state.collector.record event }

/-- Tells the operator. -/
def notify (state : State) (notices : List Notice) : State :=
  { state with notices := state.notices ++ notices }

/-- Counts tokens that were looked up, and the generation if the caller generated them. The time
that a generation takes is not observed. -/
def recordServed (state : State) (served : Served) : State :=
  let counted :=
    if served.outcome.isFresh then state.record (.generated .zero served.minted.tokens.length)
    else state
  counted.record (.lookup served.outcome)

/-- Counts and reports that the tokens of a key could not be had. -/
def recordFailure (state : State) (key : String) (error : TokenError) : State :=
  (state.notify [⟨some key, "Token generation failed: " ++ error.message⟩]).record (.failed error)

end State

end TokenMint.Engine
