import TokenMint.Cache

/-!
# What belongs to a key

Let `fits key kept` say that tokens may be kept under a key. If only such tokens are ever delivered,
a caller is only ever given tokens that fit its key, whatever else goes on in the cache. The
invariant is `Cache.Fitting`: every generation has the key that it runs for as its label, what slots
keep fits their keys, and a verdict fits the label of its generation. It is kept by each of the
operations (`Fitting.consult`, `Fitting.deliver`, `Fitting.abandon`), of which only the first adds a
label. What callers are told holds as long as labels are only added (`Guard.Fits.append`), and
those who wait get a verdict that fits (`Fitting.await?`).
-/

set_option autoImplicit false
set_option relaxedAutoImplicit false

namespace TokenMint

variable {fits : String → Kept → Prop} {labels : List String}

/-- The generation of a guard runs for a key, and what the guard remembers fits it. -/
def Guard.Fits (fits : String → Kept → Prop) (labels : List String) (key : String)
    (guard : Guard) : Prop :=
  labels[guard.generation]? = some key ∧ ∀ kept ∈ guard.previous, fits key kept

/-- What a caller is told fits its key. -/
def Instruction.Fits (fits : String → Kept → Prop) (labels : List String) (lookup : Lookup) :
    Instruction → Prop
  | .served answer =>
    lookup.ttl.isZero = false ∧ ∃ expiresAt, fits lookup.key ⟨answer.minted, expiresAt⟩ ∧
      (answer.outcome = .stale ∨ answer.outcome = .hit ∧ lookup.now < expiresAt)
  | .wait generation => lookup.ttl.isZero = false ∧ labels[generation]? = some lookup.key
  | .generate guard =>
    guard.isNone = lookup.ttl.isZero ∧ ∀ given ∈ guard, given.Fits fits labels lookup.key

theorem getElem?_append_of_eq_some {label : String} {generation : Nat}
    (hlabel : labels[generation]? = some label) (more : List String) :
    (labels ++ more)[generation]? = some label := by
  rw [List.getElem?_append_left (List.getElem?_eq_some_iff.1 hlabel).1, hlabel]

theorem Guard.Fits.append {key : String} {guard : Guard} (hfits : guard.Fits fits labels key)
    (more : List String) : guard.Fits fits (labels ++ more) key :=
  ⟨getElem?_append_of_eq_some hfits.1 more, hfits.2⟩

namespace Cache

/-- A verdict of tokens that fit a key, or of a failure. -/
def VerdictFits (fits : String → Kept → Prop) (key : String) : Verdict → Prop
  | .ok minted => ∃ expiresAt, fits key ⟨minted, expiresAt⟩
  | .error error => ∃ reason, error = .regenerationFailed reason

/-- What is kept and what has been published fits its key. -/
structure Fitting (fits : String → Kept → Prop) (labels : List String) (cache : Cache) : Prop where
  /-- Every generation has a label. -/
  length : labels.length = cache.verdicts.length
  kept : ∀ key, ∀ kept ∈ (cache.slot key).kept?, fits key kept
  running : ∀ key previous generation, cache.slot key = .regenerating previous generation →
    labels[generation]? = some key
  verdict : ∀ generation verdict, cache.verdict? generation = some verdict →
    ∃ key, labels[generation]? = some key ∧ VerdictFits fits key verdict

variable {cache : Cache} {lookup : Lookup}

theorem fitting_empty (fits : String → Kept → Prop) (policy : Policy) :
    Fitting fits [] (empty policy) where
  length := rfl
  kept key kept hkept := by simp [Slot.kept?] at hkept
  running key previous generation hslot := by simp at hslot
  verdict generation verdict hverdict := by simp [verdict?, empty] at hverdict

/-! ### Consulting the cache -/

theorem Fitting.start (hcache : cache.Fitting fits labels) {key : String} {previous : Option Kept}
    (hprevious : ∀ kept ∈ previous, fits key kept) :
    (cache.start key previous).2.Fitting fits (labels ++ [key]) := by
  have hlabel : (labels ++ [key])[cache.verdicts.length]? = some key := by
    rw [← hcache.length, List.getElem?_concat_length]
  constructor
  · show (labels ++ [key]).length = (cache.verdicts ++ [none]).length
    rw [List.length_append, List.length_append, hcache.length]
    rfl
  · intro other kept hkept
    rw [slot_start] at hkept
    split at hkept
    next hother => exact hother ▸ hprevious kept hkept
    next => exact hcache.kept other kept hkept
  · intro other before generation hslot
    rw [slot_start] at hslot
    split at hslot
    next hother =>
      obtain ⟨-, rfl⟩ := Slot.regenerating.inj hslot
      rw [hlabel, hother]
    next =>
      exact getElem?_append_of_eq_some (hcache.running other before generation hslot) [key]
  · intro generation verdict hverdict
    have hbefore : cache.verdict? generation = some verdict := by
      simp only [verdict?, Cache.start, setSlot, Option.join_eq_some_iff] at hverdict ⊢
      rw [List.getElem?_append] at hverdict
      split at hverdict
      next => exact hverdict
      next => simp [List.getElem?_singleton] at hverdict
    obtain ⟨label, hgeneration, hfits⟩ := hcache.verdict generation verdict hbefore
    exact ⟨label, getElem?_append_of_eq_some hgeneration [key], hfits⟩

/-- Whoever consults the cache is told what fits its key. -/
theorem Fitting.consult (hcache : cache.Fitting fits labels) (lookup : Lookup) :
    ∃ more, (cache.consult lookup).2.Fitting fits (labels ++ more) ∧
      (cache.consult lookup).1.Fits fits (labels ++ more) lookup := by
  -- Only a generation that is started adds a label.
  have hunchanged (told : Instruction) (hconsult : cache.consult lookup = (told, cache))
      (htold : told.Fits fits labels lookup) :
      ∃ more, (cache.consult lookup).2.Fitting fits (labels ++ more) ∧
        (cache.consult lookup).1.Fits fits (labels ++ more) lookup := by
    refine ⟨[], ?_⟩
    rw [hconsult, List.append_nil]
    exact ⟨hcache, htold⟩
  cases hzero : lookup.ttl.isZero with
  | true =>
    exact hunchanged (.generate none) (by simp [Cache.consult, hzero]) ⟨hzero.symm, by simp⟩
  | false =>
    rcases cache.consult_cases lookup with ⟨hother, -⟩ | ⟨kept, hslot, hfresh, hconsult⟩ |
      ⟨kept, generation, hslot, -, hconsult⟩ | ⟨previous, generation, hslot, hconsult⟩ |
      ⟨previous, hslot, -, -, hconsult⟩
    · simp [hzero] at hother
    · have hfits : fits lookup.key kept := hcache.kept _ kept (by rw [hslot]; rfl)
      exact hunchanged _ hconsult
        ⟨hzero, kept.expiresAt, hfits, .inr ⟨rfl, (kept.isFresh_iff lookup.now).1 hfresh⟩⟩
    · have hfits : fits lookup.key kept := hcache.kept _ kept (by rw [hslot]; rfl)
      exact hunchanged _ hconsult ⟨hzero, kept.expiresAt, hfits, .inl rfl⟩
    · exact hunchanged _ hconsult ⟨hzero, hcache.running _ _ _ hslot⟩
    · have hprevious : ∀ kept ∈ previous, fits lookup.key kept := by
        intro kept hkept
        exact hcache.kept _ kept (by rw [hslot, Slot.kept?_ofKept]; exact hkept)
      have hlabel : (labels ++ [lookup.key])[cache.verdicts.length]? = some lookup.key := by
        rw [← hcache.length, List.getElem?_concat_length]
      refine ⟨[lookup.key], ?_⟩
      rw [hconsult]
      refine ⟨hcache.start hprevious, hzero.symm, ?_⟩
      rintro guard ⟨⟩
      exact ⟨hlabel, hprevious⟩

/-! ### The end of a generation -/

theorem Fitting.conclude (hcache : cache.Fitting fits labels) {key : String} {generation : Nat}
    (hlabel : labels[generation]? = some key) (kept : Option Kept) {verdict : Verdict}
    (hkept : ∀ given ∈ kept, fits key given) (hverdict : VerdictFits fits key verdict) :
    (cache.conclude key generation (.ofKept kept) verdict).Fitting fits labels := by
  constructor
  · show labels.length = (cache.verdicts.set generation (some verdict)).length
    rw [List.length_set, hcache.length]
  · intro other given hgiven
    rw [slot_conclude] at hgiven
    split at hgiven
    next hother =>
      rw [Slot.kept?_ofKept] at hgiven
      exact hother ▸ hkept given hgiven
    next => exact hcache.kept other given hgiven
  · intro other previous number hslot
    rw [slot_conclude] at hslot
    split at hslot
    next => exact absurd hslot (Slot.ofKept_ne_regenerating _ _ _)
    next => exact hcache.running other previous number hslot
  · intro number other hother
    simp only [verdict?, Cache.conclude, Option.join_eq_some_iff] at hother
    rw [List.getElem?_set] at hother
    split at hother
    next hnumber =>
      subst hnumber
      split at hother
      next =>
        obtain rfl := Option.some.inj (Option.some.inj hother)
        exact ⟨key, hlabel, hverdict⟩
      next => simp at hother
    next => exact hcache.verdict number other (Option.join_eq_some_iff.2 hother)

theorem Fitting.release (hcache : cache.Fitting fits labels) {key : String} {guard : Guard}
    (hguard : guard.Fits fits labels key) (reason : String) :
    (cache.release key guard reason).Fitting fits labels :=
  hcache.conclude hguard.1 guard.previous hguard.2 ⟨reason, rfl⟩

/-- A cache stays fitting if the tokens that are delivered for a key fit it. -/
theorem Fitting.deliver (hcache : cache.Fitting fits labels) {guard : Option Guard}
    (hguard : ∀ given ∈ guard, given.Fits fits labels lookup.key)
    {result : Except TokenError Minted}
    (hresult : ∀ minted, guard.isSome = true → result = .ok minted →
      fits lookup.key ⟨minted, lookup.now + lookup.ttl⟩) :
    (cache.deliver lookup guard result).2.Fitting fits labels := by
  cases guard with
  | none => cases result <;> exact hcache
  | some guard =>
    cases result with
    | error error => exact hcache.release (hguard guard rfl) _
    | ok minted =>
      have hfits := hresult minted rfl rfl
      refine hcache.conclude (hguard guard rfl).1 (some ⟨minted, _⟩) ?_ ⟨_, hfits⟩
      rintro given ⟨⟩
      exact hfits

theorem Fitting.abandon (hcache : cache.Fitting fits labels) {guard : Option Guard}
    (hguard : ∀ given ∈ guard, given.Fits fits labels lookup.key) :
    (cache.abandon lookup guard).Fitting fits labels := by
  cases guard with
  | none => exact hcache
  | some guard => exact hcache.release (hguard guard rfl) _

/-- Whoever waited for a generation gets what fits the key that it runs for. -/
theorem Fitting.await? (hcache : cache.Fitting fits labels) {key : String} {generation : Nat}
    (hlabel : labels[generation]? = some key) {answer : Except TokenError Served}
    (hanswer : cache.await? generation = some answer) :
    ∃ verdict, VerdictFits fits key verdict ∧
      answer = verdict.map fun minted ↦ ⟨minted, .awaited⟩ := by
  obtain ⟨verdict, hverdict, rfl⟩ := Option.map_eq_some_iff.1 hanswer
  obtain ⟨label, hgeneration, hfits⟩ := hcache.verdict generation verdict hverdict
  obtain rfl : label = key := Option.some.inj (hgeneration.symm.trans hlabel)
  exact ⟨verdict, hfits, rfl⟩

end Cache

end TokenMint
