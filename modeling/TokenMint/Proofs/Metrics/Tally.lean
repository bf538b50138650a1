import TokenMint.Metrics
import Mathlib.Data.UInt
import Mathlib.Algebra.BigOperators.Group.List.Basic

/-!
# What the counters say

A collector that counts is told of one occurrence after another and is set back from time to time.
What it shows is a tally of what it was told since it was last set back (`Collector.run_eq_tally`).
Every counter moves by what an occurrence counts for (`Metrics.count_eq`): one that moves by one
with some occurrences shows how many of them there were (`Metrics.read_tally_of_step`), and one that
moves by a share of each occurrence shows the sum of the shares (`Metrics.read_tally_of_share`),
both wrapped. `Metrics.Tallies` says this of all counters. They do not depend on the order of
occurrences (`Metrics.tally_eq_of_perm`), and the counter of requests is the sum of the counters for
what a request can come to. The main statement is `Collector.counting_conserved`.
-/

set_option autoImplicit false
set_option relaxedAutoImplicit false

namespace TokenMint

/-! ### What an occurrence counts for -/

namespace Occurrence

/-- The number of tokens that were generated. -/
def tokens : Occurrence → Nat
  | generated _ count => count
  | _ => 0

/-- The microseconds that generating took, as far as they fit in 64 bits. -/
def microseconds : Occurrence → Nat
  | generated duration _ => duration.microseconds % UInt64.size
  | _ => 0

/-- Whether tokens were generated. -/
def isGeneration : Occurrence → Bool
  | generated _ _ => true
  | _ => false

/-- The codes that have a counter of their own. -/
def countedCodes : List String :=
  ["entropy_unavailable", "invalid_config", "regeneration_failed", "crypto_error"]

/-- Whether a request failed with a code that has no counter of its own. -/
def isOtherFailure : Occurrence → Bool
  | failed code => !countedCodes.contains code
  | _ => false

end Occurrence

/-- All failures, whatever the cause. -/
def FailureCounts.total (counts : FailureCounts) : UInt64 :=
  counts.entropyUnavailable + counts.invalidConfig + counts.regenerationFailed + counts.crypto +
    counts.other

/-- Every counter of failures moves by one with its own code, or with the codes that have none. -/
theorem FailureCounts.count_eq (counts : FailureCounts) (code : String) :
    counts.count code =
      { entropyUnavailable := counts.entropyUnavailable +
          if code = "entropy_unavailable" then 1 else 0
        invalidConfig := counts.invalidConfig + if code = "invalid_config" then 1 else 0
        regenerationFailed := counts.regenerationFailed +
          if code = "regeneration_failed" then 1 else 0
        crypto := counts.crypto + if code = "crypto_error" then 1 else 0
        other := counts.other + if code ∈ Occurrence.countedCodes then 0 else 1 } := by
  unfold count
  split_ifs <;> simp_all [Occurrence.countedCodes]

namespace Metrics

/-! ### What an occurrence moves -/

/-- Every counter moves by what the occurrence counts for. -/
theorem count_eq (metrics : Metrics) (occurrence : Occurrence) :
    metrics.count occurrence =
      { requests := metrics.requests + if occurrence.isGeneration then 0 else 1
        tokens := metrics.tokens + UInt64.ofNat occurrence.tokens
        hits := metrics.hits + if occurrence == .lookup .hit then 1 else 0
        misses := metrics.misses + if occurrence == .lookup .generated then 1 else 0
        waits := metrics.waits + if occurrence == .lookup .awaited then 1 else 0
        stale := metrics.stale + if occurrence == .lookup .stale then 1 else 0
        bypassed := metrics.bypassed + if occurrence == .lookup .bypassed then 1 else 0
        inactive := metrics.inactive + if occurrence == .inactive then 1 else 0
        failures :=
          { entropyUnavailable := metrics.failures.entropyUnavailable +
              if occurrence == .failed "entropy_unavailable" then 1 else 0
            invalidConfig := metrics.failures.invalidConfig +
              if occurrence == .failed "invalid_config" then 1 else 0
            regenerationFailed := metrics.failures.regenerationFailed +
              if occurrence == .failed "regeneration_failed" then 1 else 0
            crypto := metrics.failures.crypto +
              if occurrence == .failed "crypto_error" then 1 else 0
            other := metrics.failures.other + if occurrence.isOtherFailure then 1 else 0 }
        generationTime := metrics.generationTime + UInt64.ofNat occurrence.microseconds
        generations := metrics.generations + if occurrence.isGeneration then 1 else 0 } := by
  cases occurrence with
  | generated duration tokens =>
    have htime : UInt64.ofNat (Occurrence.generated duration tokens).microseconds =
        UInt64.ofNat duration.microseconds := UInt64.ofNat_mod_size
    rw [htime]
    simp [count, Occurrence.isGeneration, Occurrence.tokens, Occurrence.isOtherFailure]
  | lookup outcome =>
    cases outcome <;> simp [count, countOutcome, countRequest, Occurrence.isGeneration,
      Occurrence.tokens, Occurrence.microseconds, Occurrence.isOtherFailure]
  | inactive =>
    simp [count, countRequest, Occurrence.isGeneration, Occurrence.tokens,
      Occurrence.microseconds, Occurrence.isOtherFailure]
  | failed code =>
    simp [count, countRequest, FailureCounts.count_eq, Occurrence.isGeneration,
      Occurrence.tokens, Occurrence.microseconds, Occurrence.isOtherFailure]

/-! ### One counter after several occurrences -/

/-- The counters after several occurrences. -/
def tally (told : List Occurrence) : Metrics :=
  told.foldl count zero

theorem tally_concat (told : List Occurrence) (occurrence : Occurrence) :
    tally (told ++ [occurrence]) = (tally told).count occurrence :=
  List.foldl_concat ..

/-- A counter that moves by a share of every occurrence. -/
theorem read_tally_of_share (read : Metrics → UInt64) (share : Occurrence → Nat)
    (hzero : read zero = 0)
    (hstep : ∀ metrics occurrence,
      read (metrics.count occurrence) = read metrics + UInt64.ofNat (share occurrence))
    (told : List Occurrence) : read (tally told) = UInt64.ofNat (told.map share).sum := by
  induction told using List.reverseRecOn with
  | nil => exact hzero
  | append_singleton told occurrence ih =>
    rw [tally_concat, hstep, ih, List.map_append, List.sum_append, List.map_singleton,
      List.sum_singleton, UInt64.ofNat_add]

/-- A counter that moves by one with the occurrences of a kind. -/
theorem read_tally_of_step (read : Metrics → UInt64) (kind : Occurrence → Bool)
    (hzero : read zero = 0)
    (hstep : ∀ metrics occurrence,
      read (metrics.count occurrence) = read metrics + if kind occurrence then 1 else 0)
    (told : List Occurrence) : read (tally told) = UInt64.ofNat (told.countP kind) := by
  induction told using List.reverseRecOn with
  | nil => exact hzero
  | append_singleton told occurrence ih =>
    rw [tally_concat, hstep, ih, List.countP_append, List.countP_singleton, UInt64.ofNat_add]
    split <;> rfl

/-! ### All counters -/

/-- The counters show what was told, wrapped. -/
structure Tallies (told : List Occurrence) (metrics : Metrics) : Prop where
  hits : metrics.hits = UInt64.ofNat (told.count (.lookup .hit))
  misses : metrics.misses = UInt64.ofNat (told.count (.lookup .generated))
  waits : metrics.waits = UInt64.ofNat (told.count (.lookup .awaited))
  stale : metrics.stale = UInt64.ofNat (told.count (.lookup .stale))
  bypassed : metrics.bypassed = UInt64.ofNat (told.count (.lookup .bypassed))
  inactive : metrics.inactive = UInt64.ofNat (told.count .inactive)
  entropyUnavailable : metrics.failures.entropyUnavailable =
    UInt64.ofNat (told.count (.failed "entropy_unavailable"))
  invalidConfig : metrics.failures.invalidConfig =
    UInt64.ofNat (told.count (.failed "invalid_config"))
  regenerationFailed : metrics.failures.regenerationFailed =
    UInt64.ofNat (told.count (.failed "regeneration_failed"))
  crypto : metrics.failures.crypto = UInt64.ofNat (told.count (.failed "crypto_error"))
  other : metrics.failures.other = UInt64.ofNat (told.countP Occurrence.isOtherFailure)
  /-- A request is a look-up with one of five outcomes, or one that was due no tokens, or a failure
  with one of five causes. -/
  requests : metrics.requests = metrics.hits + metrics.misses + metrics.waits + metrics.stale +
    metrics.bypassed + metrics.inactive + metrics.failures.total
  tokens : metrics.tokens = UInt64.ofNat (told.map Occurrence.tokens).sum
  generations : metrics.generations = UInt64.ofNat (told.countP Occurrence.isGeneration)
  generationTime : metrics.generationTime = UInt64.ofNat (told.map Occurrence.microseconds).sum

theorem total_count (counts : FailureCounts) (code : String) :
    (counts.count code).total = counts.total + 1 := by
  simp only [FailureCounts.count, FailureCounts.total]
  split_ifs <;> grind

/-- Whatever moves the counter of requests moves one of the others with it. -/
theorem requests_tally (told : List Occurrence) :
    (tally told).requests = (tally told).hits + (tally told).misses + (tally told).waits +
      (tally told).stale + (tally told).bypassed + (tally told).inactive +
        (tally told).failures.total := by
  induction told using List.reverseRecOn with
  | nil => rfl
  | append_singleton told occurrence ih =>
    rw [tally_concat]
    generalize tally told = metrics at ih ⊢
    cases occurrence with
    | generated => exact ih
    | lookup outcome =>
      cases outcome <;> simp only [count, countOutcome, countRequest, ih] <;> grind
    | inactive =>
      simp only [count, countRequest, ih]
      grind
    | failed code =>
      simp only [count, countRequest, ih, total_count]
      grind

theorem tallies_tally (told : List Occurrence) : (tally told).Tallies told where
  hits := read_tally_of_step hits (· == .lookup .hit) rfl (by simp [count_eq]) told
  misses := read_tally_of_step misses (· == .lookup .generated) rfl (by simp [count_eq]) told
  waits := read_tally_of_step waits (· == .lookup .awaited) rfl (by simp [count_eq]) told
  stale := read_tally_of_step stale (· == .lookup .stale) rfl (by simp [count_eq]) told
  bypassed := read_tally_of_step bypassed (· == .lookup .bypassed) rfl (by simp [count_eq]) told
  inactive := read_tally_of_step inactive (· == .inactive) rfl (by simp [count_eq]) told
  entropyUnavailable := read_tally_of_step (·.failures.entropyUnavailable)
    (· == .failed "entropy_unavailable") rfl (by simp [count_eq]) told
  invalidConfig := read_tally_of_step (·.failures.invalidConfig)
    (· == .failed "invalid_config") rfl (by simp [count_eq]) told
  regenerationFailed := read_tally_of_step (·.failures.regenerationFailed)
    (· == .failed "regeneration_failed") rfl (by simp [count_eq]) told
  crypto := read_tally_of_step (·.failures.crypto)
    (· == .failed "crypto_error") rfl (by simp [count_eq]) told
  other := read_tally_of_step (·.failures.other) Occurrence.isOtherFailure rfl
    (by simp [count_eq]) told
  requests := requests_tally told
  tokens := read_tally_of_share tokens Occurrence.tokens rfl (by simp [count_eq]) told
  generations := read_tally_of_step generations Occurrence.isGeneration rfl
    (by simp [count_eq]) told
  generationTime := read_tally_of_share generationTime Occurrence.microseconds rfl
    (by simp [count_eq]) told

/-- The mean time of a generation is the wrapped total of the times by the wrapped number of
generations, rounded down, if this number is not zero. -/
theorem Tallies.meanTime_eq {told : List Occurrence} {metrics : Metrics}
    (htallies : metrics.Tallies told) :
    (metrics.generations = 0 → metrics.meanTime = 0) ∧
      (metrics.generations ≠ 0 → metrics.meanTime.toNat =
        (told.map Occurrence.microseconds).sum % UInt64.size / metrics.generations.toNat) := by
  constructor
  · intro hnone
    rw [meanTime, if_pos hnone]
  · intro hsome
    rw [meanTime, if_neg hsome, UInt64.toNat_div, htallies.generationTime]
    exact congrArg (· / metrics.generations.toNat) UInt64.toNat_ofNat'

/-! ### The order of occurrences -/

/-- Any two occurrences may be counted the other way round. -/
theorem count_comm (metrics : Metrics) (first second : Occurrence) :
    (metrics.count first).count second = (metrics.count second).count first := by
  simp only [count_eq, add_right_comm]

theorem tally_eq_of_perm {told other : List Occurrence} (hperm : told.Perm other) :
    tally told = tally other :=
  hperm.foldl_eq' (fun first _ second _ metrics ↦ count_comm metrics first second) zero

end Metrics

/-! ### Collectors -/

namespace Collector

/-- What can be done to a collector. -/
inductive Step where
  | tell (occurrence : Occurrence)
  | reset

/-- The collector after a step. -/
def after (collector : Collector) : Step → Collector
  | .tell occurrence => collector.tell occurrence
  | .reset => collector.reset

/-- A new collector that counts, after several steps. -/
def run (steps : List Step) : Collector :=
  steps.foldl after (.counting .zero)

/-- What a collector has been told when one step more is taken, from when it was last set back. -/
def toldAfter (told : List Occurrence) : Step → List Occurrence
  | .tell occurrence => told ++ [occurrence]
  | .reset => []

/-- What a collector was told since it was last set back. -/
def sinceReset (steps : List Step) : List Occurrence :=
  steps.foldl toldAfter []

theorem run_concat (steps : List Step) (step : Step) :
    run (steps ++ [step]) = (run steps).after step :=
  List.foldl_concat ..

theorem sinceReset_concat (steps : List Step) (step : Step) :
    sinceReset (steps ++ [step]) = toldAfter (sinceReset steps) step :=
  List.foldl_concat ..

/-- A collector shows a tally of what it was told since it was last set back. -/
theorem run_eq_tally (steps : List Step) :
    run steps = .counting (.tally (sinceReset steps)) := by
  induction steps using List.reverseRecOn with
  | nil => rfl
  | append_singleton steps step ih =>
    rw [run_concat, sinceReset_concat, ih]
    cases step with
    | tell occurrence => rw [after, tell, toldAfter, Metrics.tally_concat]
    | reset => rfl

/-- In whatever way a collector was told of occurrences and set back, it shows the same as any other
that was told the same since then, in any order, and the same as a new one right after it was set
back. Its counters balance, they show what was told, and the mean time is a quotient of two of
them, unless there is nothing to divide by. -/
theorem counting_conserved (steps : List Step) :
    (∀ other, (sinceReset other).Perm (sinceReset steps) →
      (run other).metrics = (run steps).metrics) ∧
    (run (steps ++ [.reset])).metrics = (Collector.counting .zero).metrics ∧
    (run steps).metrics.Tallies (sinceReset steps) ∧
    ((run steps).metrics.generations = 0 → (run steps).metrics.meanTime = 0) ∧
    ((run steps).metrics.generations ≠ 0 → (run steps).metrics.meanTime.toNat =
      ((sinceReset steps).map Occurrence.microseconds).sum % UInt64.size /
        (run steps).metrics.generations.toNat) := by
  have htallies : (run steps).metrics.Tallies (sinceReset steps) := by
    rw [run_eq_tally]
    exact Metrics.tallies_tally _
  refine ⟨fun other hperm ↦ ?_, ?_, htallies, htallies.meanTime_eq⟩
  · rw [run_eq_tally, run_eq_tally, Metrics.tally_eq_of_perm hperm]
  · rw [run_concat, run_eq_tally]
    rfl

/-- Two generations of five tokens in all, a look-up and a failure of an unknown cause, told in two
orders, once after a request and a reset. The generations took two and four whole microseconds. -/
theorem counting_conserved_swapped :
    let first : Occurrence := .generated (.ofNanoseconds 2500) 3
    let second : Occurrence := .generated (.ofNanoseconds 4999) 2
    let steps : List Step := [.tell .inactive, .reset, .tell first, .tell (.lookup .generated),
      .tell (.failed "unheard_of"), .tell second]
    let swapped : List Step := [.tell second, .tell (.failed "unheard_of"),
      .tell (.lookup .generated), .tell first]
    (sinceReset swapped).Perm (sinceReset steps) ∧
      (run swapped).metrics = (run steps).metrics ∧
      (run steps).metrics.generations ≠ 0 ∧ (run steps).metrics.meanTime.toNat = 3 ∧
      (run steps).metrics.tokens = 5 ∧ (run steps).metrics.failures.other = 1 := by
  intro first second steps swapped
  obtain ⟨horder, -, htallies, -, hmean⟩ := counting_conserved steps
  have hperm : (sinceReset swapped).Perm (sinceReset steps) := by decide
  have hsome : (run steps).metrics.generations ≠ 0 := by decide
  exact ⟨hperm, horder swapped hperm, hsome, (hmean hsome).trans (by decide),
    htallies.tokens.trans (by decide), htallies.other.trans (by decide)⟩

end Collector

end TokenMint
