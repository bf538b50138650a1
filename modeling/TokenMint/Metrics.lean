import TokenMint.Cache.Slot

/-!
# Counting what happens

A collector is told of every event and either counts it or stays silent. It takes in an event as an
`Occurrence`, to which a failure is no more than its code. Events hold what is counted: the path or
chain of scopes that one is about, the reason for which no tokens were due and the text of an error
are read by neither collector and are left out. All counters are 64-bit words and wrap. The ratio of
hits is the part of the look-ups that did not have to generate, among those that took part in
keeping tokens at all.
-/

set_option autoImplicit false
set_option relaxedAutoImplicit false

namespace TokenMint

/-- What can happen to a request, as far as it is counted. -/
inductive Event where
  /-- So many tokens were generated in such a time. -/
  | generated (duration : Duration) (count : Nat)
  /-- Tokens were looked up. -/
  | lookup (outcome : Outcome)
  /-- No tokens were due. -/
  | inactive
  /-- The request failed. -/
  | failed (error : TokenError)
  deriving DecidableEq

/-- What a collector takes in of an event. -/
inductive Occurrence where
  | generated (duration : Duration) (count : Nat)
  | lookup (outcome : Outcome)
  | inactive
  /-- The request failed with a code, which need not be the code of any error. -/
  | failed (code : String)
  deriving DecidableEq

/-- What a collector takes in: an error is known to it by its code. -/
def Event.occurrence : Event → Occurrence
  | generated duration count => .generated duration count
  | lookup outcome => .lookup outcome
  | inactive => .inactive
  | failed error => .failed error.code

/-- The counters of failures by cause. -/
structure FailureCounts where
  entropyUnavailable : UInt64
  invalidConfig : UInt64
  regenerationFailed : UInt64
  crypto : UInt64
  other : UInt64
  deriving DecidableEq

/-- The counters. -/
structure Metrics where
  requests : UInt64
  tokens : UInt64
  hits : UInt64
  misses : UInt64
  waits : UInt64
  stale : UInt64
  bypassed : UInt64
  inactive : UInt64
  failures : FailureCounts
  /-- The time that all generations took, in microseconds. -/
  generationTime : UInt64
  /-- The number of generations. -/
  generations : UInt64
  deriving DecidableEq

/-- The counters after one more failure of a code. Codes without a counter of their own are counted
together. -/
def FailureCounts.count (counts : FailureCounts) (code : String) : FailureCounts :=
  if code = "entropy_unavailable" then
    { counts with entropyUnavailable := counts.entropyUnavailable + 1 }
  else if code = "invalid_config" then { counts with invalidConfig := counts.invalidConfig + 1 }
  else if code = "regeneration_failed" then
    { counts with regenerationFailed := counts.regenerationFailed + 1 }
  else if code = "crypto_error" then { counts with crypto := counts.crypto + 1 }
  else { counts with other := counts.other + 1 }

namespace Metrics

/-- All counters are at zero. -/
def zero : Metrics :=
  ⟨0, 0, 0, 0, 0, 0, 0, 0, ⟨0, 0, 0, 0, 0⟩, 0, 0⟩

/-- The counters after one more look-up, the request aside. -/
def countOutcome (metrics : Metrics) : Outcome → Metrics
  | .hit => { metrics with hits := metrics.hits + 1 }
  | .generated => { metrics with misses := metrics.misses + 1 }
  | .awaited => { metrics with waits := metrics.waits + 1 }
  | .stale => { metrics with stale := metrics.stale + 1 }
  | .bypassed => { metrics with bypassed := metrics.bypassed + 1 }

/-- The counters after one more request. -/
def countRequest (metrics : Metrics) : Metrics :=
  { metrics with requests := metrics.requests + 1 }

/-- The counters after one more occurrence. Only a generation is no request of its own. -/
def count (metrics : Metrics) : Occurrence → Metrics
  | .generated duration count =>
    { metrics with
      tokens := metrics.tokens + UInt64.ofNat count
      generationTime := metrics.generationTime + UInt64.ofNat duration.microseconds
      generations := metrics.generations + 1 }
  | .lookup outcome => metrics.countRequest.countOutcome outcome
  | .inactive => { metrics.countRequest with inactive := metrics.inactive + 1 }
  | .failed code => { metrics.countRequest with failures := metrics.failures.count code }

/-- The counters after an event. -/
def record (metrics : Metrics) (event : Event) : Metrics :=
  metrics.count event.occurrence

/-- The mean time of a generation in whole microseconds, or zero if there was none. -/
def meanTime (metrics : Metrics) : UInt64 :=
  if metrics.generations = 0 then 0 else metrics.generationTime / metrics.generations

/-- The number of look-ups that were served without generating. -/
def servedCount (metrics : Metrics) : UInt64 :=
  metrics.hits + metrics.waits + metrics.stale

/-- The part of the look-ups that were served without generating, or zero if there was none. -/
def hitRatio (metrics : Metrics) : Float :=
  let total := metrics.servedCount + metrics.misses
  if total = 0 then 0 else metrics.servedCount.toFloat / total.toFloat

end Metrics

/-- Who is told of events. -/
inductive Collector where
  /-- Counts them. -/
  | counting (metrics : Metrics)
  /-- Ignores them. -/
  | silent
  deriving DecidableEq

namespace Collector

/-- The collector after an occurrence. -/
def tell (collector : Collector) (occurrence : Occurrence) : Collector :=
  match collector with
  | counting metrics => counting (metrics.count occurrence)
  | silent => silent

/-- The collector after an event. -/
def record (collector : Collector) (event : Event) : Collector :=
  collector.tell event.occurrence

/-- The counters; a collector that ignores everything shows zeros. -/
def metrics : Collector → Metrics
  | counting counted => counted
  | silent => .zero

/-- The collector with its counters set back. -/
def reset : Collector → Collector
  | counting _ => counting .zero
  | silent => silent

end Collector

end TokenMint
