import TokenMint.Cache

/-!
# Overlapping callers

A `Caller` is a use of the cache together with the callers that come along while it generates its
tokens. `Caller.start` lets a caller run until it is done or has to wait; the callers that come
along are started in order once it has been told to generate and before it has a result. A caller
is done when it has its answer and everyone who came along is done. The `Report` of a caller tells
whether it was done when it had been started, and `Report.settle` puts the verdicts in for those who
had to wait.
-/

set_option autoImplicit false
set_option relaxedAutoImplicit false

namespace TokenMint

/-- What a caller does when it has to generate. -/
inductive Product where
  | tokens (texts signatures : List String)
  | failure (error : TokenError)
  | breakdown

/-- The result of generating, unless the caller breaks down. -/
def Product.result? (now : Duration) : Product → Option (Except TokenError Minted)
  | .tokens texts signatures => some (.ok ⟨texts, signatures, now⟩)
  | .failure error => some (.error error)
  | .breakdown => none

/-- A use of the cache, and those who come along. -/
inductive Caller where
  /-- Asks for statistics. -/
  | stats (now : Duration)
  /-- Asks for tokens. -/
  | tokens (lookup : Lookup) (product : Product) (during : List Caller)

/-- Where a caller stands that asked for tokens. -/
inductive Standing where
  | answered (answer : Except TokenError Served)
  | waiting (generation : Nat)
  | brokenDown

/-- What is known about a caller after it was started. -/
inductive Report where
  | stats (counts : Cache.Stats)
  /-- Whether the caller was not done when it had been started, where it stands, whether it had to
  generate, and what is known about those who came along. -/
  | tokens (waited : Bool) (standing : Standing) (generating : Bool) (during : List Report)

namespace Standing

/-- Whether nothing keeps the caller waiting. -/
def isDone (cache : Cache) : Standing → Bool
  | waiting generation => (cache.verdict? generation).isSome
  | _ => true

/-- The answer of a caller that waited for a finished generation. -/
def settle (cache : Cache) : Standing → Standing
  | waiting generation =>
    match cache.await? generation with
    | some answer => answered answer
    | none => waiting generation
  | standing => standing

end Standing

namespace Report

/-- Whether the caller and all who came along are done. -/
def isDone (cache : Cache) : Report → Bool
  | .stats _ => true
  | .tokens _ standing _ during => standing.isDone cache && allDone during
where
  /-- Whether all of several callers are done. -/
  allDone : List Report → Bool
    | [] => true
    | report :: rest => isDone cache report && allDone rest

/-- The report that says whether the caller is done by now. -/
def mark (cache : Cache) : Report → Report
  | .stats counts => .stats counts
  | .tokens waited standing generating during =>
    .tokens (!isDone cache (.tokens waited standing generating during)) standing generating during

/-- The report with the answers of those who waited. -/
def settle (cache : Cache) : Report → Report
  | .stats counts => .stats counts
  | .tokens waited standing generating during =>
    .tokens waited (standing.settle cache) generating (settleAll during)
where
  /-- The reports with the answers of those who waited. -/
  settleAll : List Report → List Report
    | [] => []
    | report :: rest => settle cache report :: settleAll rest

end Report

namespace Caller

mutual

/-- Runs a caller until it is done or has to wait. -/
def start (cache : Cache) : Caller → Report × Cache
  | .stats now => (.stats (cache.stats now), cache)
  | .tokens lookup product during =>
    match cache.consult lookup with
    | (.served served, cache) => (.tokens false (.answered (.ok served)) false [], cache)
    | (.wait generation, cache) => (.tokens true (.waiting generation) false [], cache)
    | (.generate guard, cache) =>
      let (reports, cache) := startAll cache during
      match product.result? lookup.now with
      | none => (.tokens false .brokenDown true reports, cache.abandon lookup guard)
      | some result =>
        let (answer, cache) := cache.deliver lookup guard result
        (.tokens false (.answered answer) true reports, cache)

/-- Runs several callers one after the other until they are done or have to wait. -/
def startAll (cache : Cache) : List Caller → List Report × Cache
  | [] => ([], cache)
  | caller :: rest =>
    let (report, cache) := caller.start cache
    let (reports, after) := startAll cache rest
    (report.mark cache :: reports, after)

end

/-- Runs callers one after the other, each with those who come along, to the end. -/
def run (cache : Cache) (callers : List Caller) : List Report × Cache :=
  let (reports, cache) := startAll cache callers
  (reports.map (Report.settle cache), cache)

end Caller

end TokenMint
