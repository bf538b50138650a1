import TokenMint.Proofs.Settings.SingleDraw

/-!
# When signed tokens expire

A lifetime is given in nanoseconds, but the expiry that is signed is a second: that of the issue and
the whole seconds of the lifetime after it (`Settings.isExpiredAt_payload_iff`). What a lifetime has
beyond whole seconds is lost, and so is the part of its second at which a token was issued. Hence a
token never outlives its lifetime, and it is alive in the second of its issue exactly if its
lifetime has a whole second (`Settings.signatures_expire_in_time`). A shorter lifetime is not taken
for none, as a lifetime of zero is, and tokens with it are born expired
(`Settings.half_second_born_expired`).
-/

set_option autoImplicit false
set_option relaxedAutoImplicit false

namespace TokenMint

theorem Payload.isExpiredAt_iff (payload : Payload) (second : UInt64) :
    payload.isExpiredAt second = true ↔
      ∃ expiry, payload.expiresAt = some expiry ∧ expiry ≤ second := by
  cases hexpiry : payload.expiresAt <;> simp [isExpiredAt, hexpiry]

/-- Every token has a signature that is verified under a key to a payload with a property. -/
def Minted.IsVerified (minted : Minted) (key : SigningKey) (property : String → Payload → Prop) :
    Prop :=
  List.Forall₂ (fun token text ↦ ∃ payload, SignedMetadata.verify (.keyed key) text = .ok payload ∧
    property token payload) minted.tokens minted.signatures

theorem Minted.IsVerified.imp {minted : Minted} {key : SigningKey}
    {property weaker : String → Payload → Prop} (hverified : minted.IsVerified key property)
    (himp : ∀ token payload, property token payload → weaker token payload) :
    minted.IsVerified key weaker :=
  List.Forall₂.imp (fun token _ ⟨payload, hverify, hproperty⟩ ↦
    ⟨payload, hverify, himp token payload hproperty⟩) hverified

namespace Settings

variable {settings : Settings} {now : Duration}

/-! ### The second of expiry -/

theorem expiresAt_of_expiry (hexpiry : settings.expiry.isZero = false) (now : Duration) :
    ∃ expiry, settings.expiresAt now = some expiry ∧
      expiry.toNat = min (now.seconds + settings.expiry.seconds) (UInt64.size - 1) := by
  refine ⟨_, if_neg (Bool.eq_false_iff.1 hexpiry), UInt64.toNat_ofNat_of_lt' ?_⟩
  exact Nat.lt_of_le_of_lt (Nat.min_le_right _ _) (by decide)

/-- A token has expired from the second of its issue and the whole seconds of its lifetime on. -/
theorem isExpiredAt_payload_iff (hexpiry : settings.expiry.isZero = false) (scope : String)
    (now : Duration) (token : String) (second : UInt64) :
    (settings.payload scope now token).isExpiredAt second = true ↔
      min (now.seconds + settings.expiry.seconds) (UInt64.size - 1) ≤ second.toNat := by
  obtain ⟨expiry, hexpires, htoNat⟩ := expiresAt_of_expiry hexpiry now
  have hpayload : (settings.payload scope now token).expiresAt = some expiry := hexpires
  rw [Payload.isExpiredAt_iff, hpayload, ← htoNat]
  simp [UInt64.le_iff_toNat_le]

/-! ### Tokens and their lifetimes -/

/-- A payload expires, is alive in the second of its issue if the lifetime has a whole second, and
has expired once the lifetime is over. -/
structure ExpiresInTime (settings : Settings) (now : Duration) (payload : Payload) : Prop where
  expires : payload.expiresAt.isSome = true
  issuedAt : payload.issuedAt.toNat = now.seconds
  born : payload.isExpiredAt payload.issuedAt = false ↔ 1 ≤ settings.expiry.seconds
  ended (second : UInt64)
    (hended : now.nanoseconds + settings.expiry.nanoseconds ≤
      second.toNat * nanosecondsPerSecond) :
    payload.isExpiredAt second = true

theorem expiresInTime_payload (hexpiry : settings.expiry.isZero = false)
    (hnow : now.seconds + maxExpiry < UInt64.size) (scope token : String) :
    settings.ExpiresInTime now (settings.payload scope now token) where
  expires := by
    obtain ⟨expiry, hexpires, -⟩ := expiresAt_of_expiry hexpiry now
    exact Option.isSome_iff_exists.2 ⟨expiry, hexpires⟩
  issuedAt := toNat_issuedAt_payload settings scope now token
  born := by
    have hyear : 1 ≤ maxExpiry := by decide
    rw [← Bool.not_eq_true, isExpiredAt_payload_iff hexpiry, toNat_issuedAt_payload]
    omega
  ended second hended := by
    rw [isExpiredAt_payload_iff hexpiry]
    have hseconds : now.seconds + settings.expiry.seconds ≤ second.toNat := by
      unfold Duration.seconds nanosecondsPerSecond at *
      omega
    exact Nat.le_trans (Nat.min_le_left _ _) hseconds

/-- Signed tokens have a signature each, which is verified to what was signed about the token. -/
theorem isVerified_of_mint {source : EntropySource} {scope : String} {use : EntropyUse}
    {minted : Minted} (hsigned : settings.signed = true)
    (hmint : (settings.mint source scope now use).1 = .ok minted) :
    ∃ key, settings.signingKey = some key ∧
      minted.IsVerified key fun token payload ↦ payload = settings.payload scope now token := by
  obtain ⟨raw, -, hassemble⟩ := assemble_of_mint hmint
  obtain ⟨-, -, hsignatures⟩ := of_assemble hassemble
  obtain ⟨key, hkey, hverified⟩ := (of_signatures hsignatures).2 hsigned
  exact ⟨key, hkey, hverified.imp fun token text hverify ↦ ⟨_, hverify, rfl⟩⟩

/-- Whenever minting makes signed tokens with a lifetime, at least a year before the end of time,
every token has a signature that is verified to a payload that expires in time. It is alive in the
second of its issue exactly if its lifetime is a second or longer. -/
theorem signatures_expire_in_time (settings : Settings) (source : EntropySource) (scope : String)
    (now : Duration) (use : EntropyUse) (minted : Minted) (hsigned : settings.signed = true)
    (hexpiry : settings.expiry.isZero = false) (hnow : now.seconds + maxExpiry < UInt64.size)
    (hmint : (settings.mint source scope now use).1 = .ok minted) :
    ∃ key, settings.signingKey = some key ∧ minted.IsVerified key fun token payload ↦
      payload.token = token ∧ payload.scope = scope ∧ settings.ExpiresInTime now payload := by
  obtain ⟨key, hkey, hverified⟩ := isVerified_of_mint hsigned hmint
  refine ⟨key, hkey, hverified.imp ?_⟩
  rintro token payload rfl
  exact ⟨rfl, rfl, expiresInTime_payload hexpiry hnow scope token⟩

/-- A key of a single byte. -/
def shortKey : SigningKey :=
  ⟨[0x6b], by decide⟩

/-- Settings whose tokens are signed and live for so many nanoseconds. -/
def signedFor (nanoseconds : Nat) : Settings :=
  { standard with
    signed := true
    signingKey := some shortKey
    expiry := .ofNanoseconds nanoseconds }

theorem exists_mint_signedFor (nanoseconds : Nat) (now : Duration) :
    ∃ minted, ((signedFor nanoseconds).mint (.cyclic [1] []) "site" now .none).1 = .ok minted := by
  have hvalid : (signedFor nanoseconds).validate = .ok () := rfl
  rw [mint_of_success hvalid "site" now rfl]
  exact ((validate_eq_ok_iff _).1 hvalid).exists_assemble "site" now
    (EntropySource.length_read _ _ _)

/-- A token that is issued late in its second and lives for one second and a half. -/
theorem signatures_expire_in_time_late :
    let settings := signedFor 1500000000
    let now := Duration.ofParts 7 900000000
    settings.signed = true ∧ settings.expiry.isZero = false ∧
      now.seconds + maxExpiry < UInt64.size ∧ 1 ≤ settings.expiry.seconds ∧
      ∃ minted key, (settings.mint (.cyclic [1] []) "site" now .none).1 = .ok minted ∧
        settings.signingKey = some key ∧ minted.IsVerified key fun token payload ↦
          payload.token = token ∧ payload.scope = "site" ∧
            settings.ExpiresInTime now payload := by
  intro settings now
  have hexpiry : settings.expiry.isZero = false := by decide
  have hnow : now.seconds + maxExpiry < UInt64.size := by decide
  obtain ⟨minted, hmint⟩ := exists_mint_signedFor 1500000000 now
  obtain ⟨key, hkey, hsignatures⟩ :=
    signatures_expire_in_time settings _ "site" now .none minted rfl hexpiry hnow hmint
  exact ⟨rfl, hexpiry, hnow, by decide, minted, key, hmint, hkey, hsignatures⟩

/-- A token that is to live for half a second has expired in the very second of its issue. -/
theorem half_second_born_expired :
    let settings := signedFor 500000000
    settings.validate = .ok () ∧ settings.signed = true ∧ settings.expiry.isZero = false ∧
      ∃ minted key, (settings.mint (.cyclic [1] []) "site" .zero .none).1 = .ok minted ∧
        settings.signingKey = some key ∧ minted.tokens.length = 1 ∧
        minted.IsVerified key fun token payload ↦
          payload.token = token ∧ payload.isExpiredAt payload.issuedAt = true := by
  intro settings
  have hexpiry : settings.expiry.isZero = false := by decide
  obtain ⟨minted, hmint⟩ := exists_mint_signedFor 500000000 .zero
  obtain ⟨key, hkey, hverified⟩ := isVerified_of_mint rfl hmint
  obtain ⟨raw, -, hassemble⟩ := assemble_of_mint hmint
  obtain ⟨-, htokens, -⟩ := of_assemble hassemble
  refine ⟨rfl, rfl, hexpiry, minted, key, hmint, hkey, htokens.length_eq.symm, ?_⟩
  refine hverified.imp ?_
  rintro token payload rfl
  rw [isExpiredAt_payload_iff hexpiry, toNat_issuedAt_payload]
  exact ⟨rfl, by decide⟩

end Settings

end TokenMint
