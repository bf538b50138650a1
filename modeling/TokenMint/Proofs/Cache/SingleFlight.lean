import TokenMint.Proofs.Cache.Change

/-!
# One generation at a time, and one after the other

The generations for a key that succeed are kept for times that do not overlap: one begins at the
earliest when the one before it has expired. `History` is the invariant behind this. A slot keeps
what the last of them published, and a generation that runs was started when all of them had
expired. `single_flight` puts this together with the owners of slots: at most one generation runs
for a key, whoever is served what is kept gets what was published last, before it has expired, and
whoever is served what has expired gets what was published last, while a newer generation runs.
-/

set_option autoImplicit false
set_option relaxedAutoImplicit false

namespace TokenMint.Traffic

variable {traffic next : Traffic}

/-- An instant lies in the time for which the tokens of a generation are kept. -/
def Publication.Covers (publication : Publication) (instant : Duration) : Prop :=
  publication.lookup.now ≤ instant ∧
    instant < publication.lookup.now + publication.lookup.ttl

/-- The generation for a key that succeeded last. -/
def lastPublished? (traffic : Traffic) (key : String) : Option Publication :=
  (traffic.publishedFor key).getLast?

/-- The call of a caller ends in a step. -/
def EndsIn (traffic : Traffic) (step : Step) (caller : String) (lookup : Lookup)
    (ending : Ending) : Prop :=
  (∀ call, traffic.calls.get? caller = some call → call.ending = none) ∧
    ∃ told, (traffic.after step).calls.get? caller = some ⟨lookup, told, some ending⟩

/-- The generations that succeeded, what is kept of them, and the ones that run. -/
structure History (traffic : Traffic) : Prop where
  /-- A slot keeps what was published last. -/
  kept_slot (key : String) :
    (traffic.cache.slot key).kept? = (traffic.lastPublished? key).map Publication.kept
  /-- What was published had expired when the generation started that runs. -/
  expired_of_runs {caller : String} {lookup : Lookup} {guard : Guard}
    (hruns : traffic.Runs caller lookup guard) (publication : Publication)
    (hmem : publication ∈ traffic.published) (hkey : publication.lookup.key = lookup.key) :
    publication.kept.expiresAt ≤ lookup.now
  /-- What was published had expired when the next generation started. -/
  ordered : traffic.published.Pairwise fun first second ↦
    first.lookup.key = second.lookup.key → first.kept.expiresAt ≤ second.lookup.now

theorem mem_publishedFor (traffic : Traffic) (key : String) (publication : Publication) :
    publication ∈ traffic.publishedFor key ↔
      publication ∈ traffic.published ∧ publication.lookup.key = key := by
  simp [publishedFor]

theorem mem_of_lastPublished? {key : String} {publication : Publication}
    (hlast : traffic.lastPublished? key = some publication) :
    publication ∈ traffic.published ∧ publication.lookup.key = key :=
  (mem_publishedFor ..).1 (List.mem_of_getLast? hlast)

theorem publishedFor_concat {publication : Publication} (key : String)
    (hpublished : next.published = traffic.published ++ [publication]) :
    next.publishedFor key =
      traffic.publishedFor key ++ if publication.lookup.key = key then [publication] else [] := by
  rw [publishedFor, hpublished, List.filter_append]
  by_cases hkey : publication.lookup.key = key <;> simp [hkey, publishedFor]

theorem lastPublished?_concat {publication : Publication} (key : String)
    (hpublished : next.published = traffic.published ++ [publication]) :
    next.lastPublished? key =
      if publication.lookup.key = key then some publication else traffic.lastPublished? key := by
  rw [lastPublished?, publishedFor_concat key hpublished]
  by_cases hkey : publication.lookup.key = key <;> simp [hkey, lastPublished?]

theorem history_initial (policy : Policy) : History (initial policy) where
  kept_slot key := rfl
  expired_of_runs hruns := by simp [Runs, Claimed, initial] at hruns
  ordered := .nil

namespace History

theorem ordered_publishedFor (hhist : History traffic) (key : String) :
    (traffic.publishedFor key).Pairwise fun first second ↦
      first.kept.expiresAt ≤ second.lookup.now := by
  refine (hhist.ordered.filter _).imp_of_mem ?_
  intro first second hfirst hsecond hle
  have hfirstKey := ((mem_publishedFor ..).1 hfirst).2
  have hsecondKey := ((mem_publishedFor ..).1 hsecond).2
  exact hle (hfirstKey.trans hsecondKey.symm)

/-- Nothing that was published for a key lives longer than what was published last. -/
theorem expiresAt_le (hhist : History traffic) {key : String} {publication last : Publication}
    (hmem : publication ∈ traffic.publishedFor key)
    (hlast : traffic.lastPublished? key = some last) :
    publication.kept.expiresAt ≤ last.kept.expiresAt := by
  obtain ⟨earlier, hearlier⟩ := List.getLast?_eq_some_iff.1 hlast
  have hordered := hhist.ordered_publishedFor key
  rw [hearlier] at hmem hordered
  rcases List.mem_append.1 hmem with hmem | hmem
  · have hle := (List.pairwise_append.1 hordered).2.2 publication hmem last (by simp)
    have hlife := Duration.le_add last.lookup.now last.lookup.ttl
    rw [Duration.le_iff] at hle hlife ⊢
    exact Nat.le_trans hle hlife
  · obtain rfl := List.mem_singleton.1 hmem
    exact Nat.le_refl _

/-- What a slot keeps, and hence everything that was published for its key, has expired when a
generation may start. -/
theorem expired_of_idle (hhist : History traffic) {lookup : Lookup} {previous : Option Kept}
    (hidle : traffic.cache.slot lookup.key = .ofKept previous)
    (hexpired : ∀ kept, previous = some kept → kept.isFresh lookup.now = false)
    (publication : Publication) (hmem : publication ∈ traffic.published)
    (hkey : publication.lookup.key = lookup.key) :
    publication.kept.expiresAt ≤ lookup.now := by
  have hfor : publication ∈ traffic.publishedFor lookup.key :=
    (mem_publishedFor ..).2 ⟨hmem, hkey⟩
  have hkept := hhist.kept_slot lookup.key
  rw [hidle, Slot.kept?_ofKept] at hkept
  cases hlast : traffic.lastPublished? lookup.key with
  | none =>
    rw [List.getLast?_eq_none_iff.1 hlast] at hfor
    cases hfor
  | some last =>
    rw [hlast] at hkept
    have hle := hhist.expiresAt_le hfor hlast
    have hlastExpired := (Kept.not_isFresh_iff ..).1 (hexpired last.kept hkept)
    rw [Duration.le_iff] at hle hlastExpired ⊢
    exact Nat.le_trans hle hlastExpired

/-- What has been published stays as it is when no generation starts and none succeeds. -/
theorem of_published_eq (hhist : History traffic) (hpublished : next.published = traffic.published)
    (hkept : ∀ key, (next.cache.slot key).kept? = (traffic.cache.slot key).kept?)
    (hruns : ∀ caller lookup guard, next.Runs caller lookup guard →
      traffic.Runs caller lookup guard) :
    History next where
  kept_slot key := by
    rw [hkept, hhist.kept_slot, lastPublished?, lastPublished?, publishedFor, publishedFor,
      hpublished]
  expired_of_runs hnext publication hmem hkey :=
    hhist.expired_of_runs (hruns _ _ _ hnext) publication (hpublished ▸ hmem) hkey
  ordered := hpublished ▸ hhist.ordered

theorem change (hhist : History traffic) (hown : Ownership traffic) {step : Step}
    (hchange : Change traffic step next) : History next := by
  cases hchange with
  | idle => exact hhist
  | @told caller lookup told hnone hconsult htold =>
    refine hhist.of_published_eq rfl (fun key ↦ rfl) ?_
    intro other otherLookup guard hruns
    rcases (claimed_iff_of_calls_eq rfl ..).1 hruns with ⟨-, hnew⟩ | ⟨-, hruns⟩
    · cases hnew
      exact absurd rfl (htold guard)
    · exact hruns
  | @started caller lookup previous hnone hidle hexpired hlifetime =>
    constructor
    · intro key
      have hkept := hhist.kept_slot key
      simp only [Cache.slot_start]
      split
      next hkey =>
        subst hkey
        rw [hidle, Slot.kept?_ofKept] at hkept
        exact hkept
      next => exact hkept
    · intro other otherLookup guard hruns publication hmem hkey
      rcases (claimed_iff_of_calls_eq rfl ..).1 hruns with ⟨-, hnew⟩ | ⟨-, hruns⟩
      · cases hnew
        exact hhist.expired_of_idle hidle hexpired publication hmem hkey
      · exact hhist.expired_of_runs hruns publication hmem hkey
    · exact hhist.ordered
  | @done _ caller lookup told ending hcall htold houtcome =>
    refine hhist.of_published_eq rfl (fun key ↦ rfl) ?_
    intro other otherLookup guard hruns
    rcases (claimed_iff_of_calls_eq rfl ..).1 hruns with ⟨-, hnew⟩ | ⟨-, hruns⟩
    · cases hnew
    · exact hruns
  | @succeeded caller lookup guard minted hruns =>
    constructor
    · intro key
      rw [lastPublished?_concat key rfl]
      simp only [Cache.slot_conclude]
      by_cases hkey : lookup.key = key
      · rw [if_pos hkey.symm, if_pos hkey]
        rfl
      · rw [if_neg (Ne.symm hkey), if_neg hkey]
        exact hhist.kept_slot key
    · intro other otherLookup otherGuard hother publication hmem hkey
      rcases (claimed_iff_of_calls_eq rfl ..).1 hother with ⟨-, hnew⟩ | ⟨hne, hother⟩
      · cases hnew
      · rcases List.mem_append.1 hmem with hmem | hmem
        · exact hhist.expired_of_runs hother publication hmem hkey
        · obtain rfl := List.mem_singleton.1 hmem
          exact absurd (hown.runs_unique hruns hother hkey.symm) hne
    · refine List.pairwise_append.2 ⟨hhist.ordered, List.pairwise_singleton .., ?_⟩
      intro first hfirst second hsecond hkey
      obtain rfl := List.mem_singleton.1 hsecond
      exact hhist.expired_of_runs hruns first hfirst hkey
  | @failed caller lookup guard failure hruns =>
    refine hhist.of_published_eq rfl ?_ ?_
    · intro key
      simp only [afterFailed, Cache.slot_conclude]
      split
      next hkey =>
        -- The guard remembers what its slot keeps.
        rw [hkey, hown.slot_of_runs hruns, Slot.kept?_ofKept]
        rfl
      next => rfl
    · intro other otherLookup otherGuard hother
      rcases (claimed_iff_of_calls_eq rfl ..).1 hother with ⟨-, hnew⟩ | ⟨-, hother⟩
      · cases hnew
      · exact hother

theorem afterAll (hhist : History traffic) (hown : Ownership traffic) (steps : List Step) :
    History (traffic.afterAll steps) :=
  hown.afterAll_induction (fun hown hhist hchange ↦ hhist.change hown hchange) hhist steps

end History

theorem history_run (policy : Policy) (steps : List Step) : History (run policy steps) :=
  (history_initial policy).afterAll (ownership_initial policy) steps

/-! ### Callers that are served at once -/

/-- Whoever is served what is kept, expired or not, is served on consulting the cache. -/
theorem consult_of_endsIn (hown : Ownership traffic) {step : Step} {caller : String}
    {lookup : Lookup} {served : Served}
    (hends : traffic.EndsIn step caller lookup (.answered (.ok served)))
    (houtcome : served.outcome = .hit ∨ served.outcome = .stale) :
    (traffic.cache.consult lookup).1 = .served served := by
  obtain ⟨hpending, told, hcall⟩ := hends
  have hold : traffic.calls.get? caller ≠ some ⟨lookup, told, some (.answered (.ok served))⟩ :=
    fun h ↦ by cases hpending _ h
  have hset {setter : String} {call : Call} {next : Traffic}
      (hcalls : next.calls = (traffic.setCall setter call).calls)
      (hget : next.calls.get? caller = some ⟨lookup, told, some (.answered (.ok served))⟩) :
      call = ⟨lookup, told, some (.answered (.ok served))⟩ := by
    rw [hcalls, calls_setCall] at hget
    split at hget
    next => exact Option.some.inj hget
    next => exact absurd hget hold
  generalize hnext : traffic.after step = next at hcall
  have hchange := change_after hown step
  rw [hnext] at hchange
  cases hchange with
  | idle => exact absurd hcall hold
  | @told _ other told' hnone hconsult htold =>
    obtain ⟨rfl, rfl, hending⟩ := Call.mk.inj (hset rfl hcall)
    cases told' with
    | served other =>
      obtain rfl := Except.ok.inj (Ending.answered.inj (Option.some.inj hending))
      rw [hconsult]
    | wait => cases hending
    | generate => cases hending
  | started => cases hset rfl hcall
  | done _ _ hdone =>
    obtain ⟨-, -, hending⟩ := Call.mk.inj (hset rfl hcall)
    rcases hdone served (Option.some.inj hending) with h | h <;>
      rw [h] at houtcome <;> simp at houtcome
  | succeeded =>
    cases hset rfl hcall
    simp at houtcome
  | failed failure =>
    obtain ⟨-, -, hending⟩ := Call.mk.inj (hset rfl hcall)
    cases failure <;> cases hending

theorem policy_afterAll (steps : List Step) (hown : Ownership traffic) :
    (traffic.afterAll steps).cache.policy = traffic.cache.policy := by
  induction steps generalizing traffic with
  | nil => rfl
  | cons step steps ih =>
    have hchange := change_after hown step
    rw [afterAll_cons, ih (hown.change hchange)]
    generalize traffic.after step = next at hchange
    cases hchange <;> rfl

theorem policy_run (policy : Policy) (steps : List Step) :
    (run policy steps).cache.policy = policy :=
  policy_afterAll steps (ownership_initial policy)

/-- What is kept under a key was published last. -/
theorem History.last_of_kept (hhist : History traffic) {key : String} {kept : Kept}
    (hkept : (traffic.cache.slot key).kept? = some kept) :
    ∃ last, traffic.lastPublished? key = some last ∧ last.kept = kept :=
  Option.map_eq_some_iff.1 ((hhist.kept_slot key).symm.trans hkept)

theorem hit_is_last (hown : Ownership traffic) (hhist : History traffic) {step : Step}
    {caller : String} {lookup : Lookup} {minted : Minted}
    (hends : traffic.EndsIn step caller lookup (.answered (.ok ⟨minted, .hit⟩))) :
    ∃ last, traffic.lastPublished? lookup.key = some last ∧ last.minted = minted ∧
      lookup.now < last.lookup.now + last.lookup.ttl := by
  have hserved := consult_of_endsIn hown hends (.inl rfl)
  rcases Cache.slot_of_served hserved with
    ⟨kept, hslot, hfresh, hkept⟩ | ⟨kept, generation, -, -, hkept⟩
  · obtain ⟨last, hlast, rfl⟩ := hhist.last_of_kept (by rw [hslot]; rfl)
    obtain ⟨rfl, -⟩ := Served.mk.inj hkept
    exact ⟨last, hlast, rfl, (Kept.isFresh_iff ..).1 hfresh⟩
  · cases (Served.mk.inj hkept).2

theorem stale_is_last (hown : Ownership traffic) (hhist : History traffic) {step : Step}
    {caller : String} {lookup : Lookup} {minted : Minted}
    (hends : traffic.EndsIn step caller lookup (.answered (.ok ⟨minted, .stale⟩))) :
    traffic.cache.policy = .serveStale ∧
      ∃ last, traffic.lastPublished? lookup.key = some last ∧ last.minted = minted ∧
        ∃ runner running guard, traffic.Runs runner running guard ∧
          running.key = lookup.key ∧ last.lookup.now + last.lookup.ttl ≤ running.now := by
  have hserved := consult_of_endsIn hown hends (.inr rfl)
  rcases Cache.slot_of_served hserved with
    ⟨kept, -, -, hkept⟩ | ⟨kept, generation, hslot, hpolicy, hkept⟩
  · cases (Served.mk.inj hkept).2
  · obtain ⟨last, hlast, rfl⟩ := hhist.last_of_kept (by rw [hslot]; rfl)
    obtain ⟨rfl, -⟩ := Served.mk.inj hkept
    obtain ⟨runner, running, hruns, hkey⟩ := hown.runs_of_slot hslot
    obtain ⟨hmem, hlastKey⟩ := mem_of_lastPublished? hlast
    refine ⟨hpolicy, last, hlast, rfl, runner, running, _, hruns, hkey, ?_⟩
    exact hhist.expired_of_runs hruns last hmem (hlastKey.trans hkey.symm)

/-! ### The main statement -/

/-- One generation at a time and one after the other, and those who are served at once. -/
structure SingleFlight (policy : Policy) (traffic : Traffic) : Prop where
  /-- At most one generation runs for a key. -/
  one_runs {first second : String} {firstLookup secondLookup : Lookup}
    {firstGuard secondGuard : Guard}
    (hfirst : traffic.Runs first firstLookup firstGuard)
    (hsecond : traffic.Runs second secondLookup secondGuard)
    (hkey : secondLookup.key = firstLookup.key) :
    second = first ∧ secondGuard = firstGuard
  /-- A slot says that a generation runs exactly when one runs for its key. -/
  regenerating_iff (key : String) :
    (∃ previous generation, traffic.cache.slot key = .regenerating previous generation) ↔
      ∃ caller lookup guard, traffic.Runs caller lookup guard ∧ lookup.key = key
  /-- When tokens are published for a key, those published before have expired, and no instant
  lies in the times for which two of them are kept. -/
  disjoint (key : String) :
    (traffic.publishedFor key).Pairwise fun first second ↦
      first.lookup.now + first.lookup.ttl ≤ second.lookup.now ∧
        ∀ instant, ¬(first.Covers instant ∧ second.Covers instant)
  /-- Whoever is served what is kept gets what was published last, before it expires. -/
  hit {step : Step} {caller : String} {lookup : Lookup} {minted : Minted}
    (hends : traffic.EndsIn step caller lookup (.answered (.ok ⟨minted, .hit⟩))) :
    ∃ last, traffic.lastPublished? lookup.key = some last ∧ last.minted = minted ∧
      lookup.now < last.lookup.now + last.lookup.ttl
  /-- Whoever is served what has expired gets what was published last, and a generation runs for
  the key that was started when it had expired. -/
  stale {step : Step} {caller : String} {lookup : Lookup} {minted : Minted}
    (hends : traffic.EndsIn step caller lookup (.answered (.ok ⟨minted, .stale⟩))) :
    policy = .serveStale ∧
      ∃ last, traffic.lastPublished? lookup.key = some last ∧ last.minted = minted ∧
        ∃ runner running guard, traffic.Runs runner running guard ∧
          running.key = lookup.key ∧ last.lookup.now + last.lookup.ttl ≤ running.now

/-- Whatever the policy, and in whatever order callers consult the cache, generate, fail, break
down and wait. -/
theorem single_flight (policy : Policy) (steps : List Step) :
    SingleFlight policy (run policy steps) := by
  have hown := ownership_run policy steps
  have hhist := history_run policy steps
  constructor
  · intro first second firstLookup secondLookup firstGuard secondGuard hfirst hsecond hkey
    obtain rfl := hown.runs_unique hfirst hsecond hkey
    have hcall := Call.mk.inj (Option.some.inj (hsecond.symm.trans hfirst))
    exact ⟨rfl, Option.some.inj (Instruction.generate.inj hcall.2.1)⟩
  · intro key
    constructor
    · rintro ⟨previous, generation, hslot⟩
      obtain ⟨caller, lookup, hruns, hkey⟩ := hown.runs_of_slot hslot
      exact ⟨caller, lookup, _, hruns, hkey⟩
    · rintro ⟨caller, lookup, guard, hruns, rfl⟩
      exact ⟨guard.previous, guard.generation, hown.slot_of_runs hruns⟩
  · intro key
    refine (hhist.ordered_publishedFor key).imp ?_
    intro first second hle
    refine ⟨hle, fun instant hcovers ↦ ?_⟩
    obtain ⟨⟨-, hbefore⟩, hafter, -⟩ := hcovers
    simp only [Publication.kept, Duration.le_iff, Duration.lt_iff] at hle hbefore hafter
    omega
  · intro step caller lookup minted hends
    exact hit_is_last hown hhist hends
  · intro step caller lookup minted hends
    obtain ⟨hpolicy, hlast⟩ := stale_is_last hown hhist hends
    rw [policy_run] at hpolicy
    exact ⟨hpolicy, hlast⟩

/-- Tokens for five seconds are published at the start of time. A minute later, while a second
caller generates new ones, a third one is served the old ones. -/
theorem single_flight_stale_call :
    let second : Lookup := ⟨"site", .ofSeconds 60, .ofSeconds 5⟩
    let minted : Minted := ⟨["old"], [], .zero⟩
    let traffic := run .serveStale
      [.consult "a" ⟨"site", .zero, .ofSeconds 5⟩, .finish "a" (.ok minted), .consult "b" second]
    traffic.EndsIn (.consult "c" second) "c" second (.answered (.ok ⟨minted, .stale⟩)) ∧
      ∃ last, traffic.lastPublished? "site" = some last ∧ last.minted = minted ∧
        ∃ runner running guard, traffic.Runs runner running guard ∧
          running.key = "site" ∧ last.lookup.now + last.lookup.ttl ≤ running.now := by
  intro second minted traffic
  have hends : traffic.EndsIn (.consult "c" second) "c" second
      (.answered (.ok ⟨minted, .stale⟩)) := by
    refine ⟨fun call hcall ↦ ?_, .served ⟨minted, .stale⟩, rfl⟩
    have hnone : traffic.calls.get? "c" = none := rfl
    simp [hnone] at hcall
  exact ⟨hends, ((single_flight .serveStale _).stale hends).2⟩

end TokenMint.Traffic
