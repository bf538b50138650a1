import TokenMint.Metadata
import TokenMint.Proofs.Bytes.Base64
import TokenMint.Proofs.Metadata.Payload

/-!
# Signed texts

A signed text is two base64 texts with a dot between them. The dot is no base64 digit, and bytes
have a single base64 text, so `split?` takes a text apart into the bytes and the tag that `join` put
together, and takes nothing else apart (`SignedMetadata.split?_eq_some_iff`). What verification
accepts follows from this for any scheme (`SignedMetadata.verify_eq_ok_iff`). A payload that was
signed is verified again (`verify_sign`), and the texts that are accepted under a key are exactly
the joined texts of bytes that hold a payload with their own tag (`verify_keyed_genuine`).
-/

set_option autoImplicit false
set_option relaxedAutoImplicit false

namespace TokenMint.SignedMetadata

open Bytes (Base64)

/-! ### The two parts of a text -/

/-- A text is two base64 texts with the separator between them, or it is not taken apart. -/
theorem split?_eq_some_iff {text : List Char} {bytes tag : List UInt8} :
    split? text = some (bytes, tag) ↔ text = join bytes tag := by
  constructor
  · intro hsplit
    obtain ⟨⟨before, after⟩, hparts, hsplit⟩ := Option.bind_eq_some_iff.1 hsplit
    obtain ⟨first, hfirst, hsplit⟩ := Option.bind_eq_some_iff.1 hsplit
    obtain ⟨second, hsecond, hsplit⟩ := Option.bind_eq_some_iff.1 hsplit
    obtain ⟨rfl, rfl⟩ := Prod.mk.inj (Option.some.inj hsplit)
    rw [(Text.append_splitFirst hparts).1, Base64.eq_encode_of_decode? hfirst,
      Base64.eq_encode_of_decode? hsecond, join]
  · rintro rfl
    have hdot : separator ∉ Base64.urlSafe.encode bytes := Base64.not_mem_encode_urlSafe rfl bytes
    simp only [split?, join, Text.splitFirst_append _ hdot, Base64.decode?_encode,
      Option.bind_eq_bind, Option.bind_some, Option.pure_def]

theorem split?_join (bytes tag : List UInt8) : split? (join bytes tag) = some (bytes, tag) :=
  split?_eq_some_iff.2 rfl

/-! ### Verification -/

/-- A text is accepted if its tag is and its bytes hold a payload. -/
theorem verify_eq_ok_iff {scheme : SignatureScheme} {text : String} {payload : Payload} :
    verify scheme text = .ok payload ↔
      ∃ bytes tag, text = String.ofList (join bytes tag) ∧ scheme.verify bytes tag = .ok () ∧
        Payload.ofBytes? bytes = some payload := by
  unfold verify
  constructor
  · intro hverify
    split at hverify
    next => simp at hverify
    next bytes tag hsplit =>
      refine ⟨bytes, tag, ?_, ?_⟩
      · rw [← split?_eq_some_iff.1 hsplit, String.ofList_toList]
      · cases htag : scheme.verify bytes tag with
        | error error => simp [htag, bind, Except.bind] at hverify
        | ok accepted =>
          simp only [htag, bind, Except.bind] at hverify
          split at hverify
          next => simp at hverify
          next read hread => exact ⟨rfl, (Except.ok.inj hverify) ▸ hread⟩
  · rintro ⟨bytes, tag, rfl, htag, hread⟩
    simp only [String.toList_ofList, split?_join, htag, hread, bind, Except.bind]

/-- Under a key a text that is not accepted is a mismatch. -/
theorem eq_signatureMismatch {key : SigningKey} {text : String} {error : TokenError}
    (hverify : verify (.keyed key) text = .error error) : error = .signatureMismatch := by
  unfold verify at hverify
  split at hverify
  next => exact (Except.error.inj hverify).symm
  next bytes tag hsplit =>
    simp only [SignatureScheme.keyed, SignatureScheme.require] at hverify
    split at hverify
    next =>
      simp only [bind, Except.bind] at hverify
      split at hverify
      next => exact (Except.error.inj hverify).symm
      next => simp at hverify
    next => exact (Except.error.inj hverify).symm

theorem sign_of_ok {scheme : SignatureScheme} {payload : Payload} {tag : List UInt8}
    (hsign : scheme.sign payload.toBytes = .ok tag) :
    sign scheme payload = .ok ⟨payload, tag⟩ := by
  simp only [sign, hsign, bind, Except.bind, pure, Except.pure]

theorem sign_keyed (key : SigningKey) (payload : Payload) :
    sign (.keyed key) payload = .ok ⟨payload, Digest.Hmac.tag key.bytes payload.toBytes⟩ :=
  sign_of_ok rfl

theorem verify_text_of_tag {scheme : SignatureScheme} {payload : Payload} {tag : List UInt8}
    (htag : scheme.verify payload.toBytes tag = .ok ()) :
    verify scheme (text ⟨payload, tag⟩) = .ok payload :=
  verify_eq_ok_iff.2 ⟨payload.toBytes, tag, rfl, htag, payload.ofBytes?_toBytes⟩

theorem verify_keyed_eq_ok_iff {key : SigningKey} {text : String} {payload : Payload} :
    verify (.keyed key) text = .ok payload ↔
      ∃ bytes, text = String.ofList (join bytes (Digest.Hmac.tag key.bytes bytes)) ∧
        Payload.ofBytes? bytes = some payload := by
  rw [verify_eq_ok_iff]
  constructor
  · rintro ⟨bytes, tag, htext, htag, hread⟩
    obtain rfl := (SignatureScheme.verify_keyed key bytes tag).1 htag
    exact ⟨bytes, htext, hread⟩
  · rintro ⟨bytes, htext, hread⟩
    exact ⟨bytes, _, htext, (SignatureScheme.verify_keyed key bytes _).2 rfl, hread⟩

/-! ### The main statements -/

/-- A payload, whatever it holds, is signed under every key and read back from the signed text. The
same holds for every scheme that signs the written form and accepts the tag that it gave. -/
theorem verify_sign (payload : Payload) :
    (∀ key : SigningKey, ∃ signed, sign (.keyed key) payload = .ok signed ∧
      signed.payload = payload ∧ verify (.keyed key) signed.text = .ok payload) ∧
    ∀ (scheme : SignatureScheme) (tag : List UInt8), scheme.sign payload.toBytes = .ok tag →
      scheme.verify payload.toBytes tag = .ok () →
        ∃ signed, sign scheme payload = .ok signed ∧ signed.payload = payload ∧
          verify scheme signed.text = .ok payload := by
  constructor
  · intro key
    have htag : (SignatureScheme.keyed key).verify payload.toBytes
        (Digest.Hmac.tag key.bytes payload.toBytes) = .ok () :=
      (SignatureScheme.verify_keyed key _ _).2 rfl
    exact ⟨_, sign_keyed key payload, rfl, verify_text_of_tag htag⟩
  · intro scheme tag hsign htag
    exact ⟨_, sign_of_ok hsign, rfl, verify_text_of_tag htag⟩

/-- A scheme whose tag is always the same, and a payload with a quote, a backslash, control
characters, a character outside the first plane and the largest number. -/
theorem verify_sign_fixed_tag :
    let payload : Payload := ⟨18446744073709551615, none, "a\"b\\c>😀", "\x00\n\x1f"⟩
    let scheme : SignatureScheme :=
      ⟨"fixed", fun _ ↦ .ok [7], fun _ tag ↦ SignatureScheme.require (tag = [7])⟩
    scheme.sign payload.toBytes = .ok [7] ∧ scheme.verify payload.toBytes [7] = .ok () ∧
      ∃ signed, sign scheme payload = .ok signed ∧ signed.payload = payload ∧
        verify scheme signed.text = .ok payload := by
  intro payload scheme
  have hsign : scheme.sign payload.toBytes = .ok [7] := rfl
  have htag : scheme.verify payload.toBytes [7] = .ok () := rfl
  exact ⟨hsign, htag, (verify_sign payload).2 scheme [7] hsign htag⟩

/-- Under a key a text is accepted exactly if it is the joined text of some bytes that hold a
payload and of their own tag, and otherwise it is a mismatch. So no two accepted texts have the same
bytes, and an accepted text that differs from the signed text of a payload has other bytes than the
written form of this payload, and their own tag. -/
theorem verify_keyed_genuine (key : SigningKey) (text : String) :
    ((∃ payload, verify (.keyed key) text = .ok payload) ∨
      verify (.keyed key) text = .error .signatureMismatch) ∧
    (∀ payload, verify (.keyed key) text = .ok payload ↔
      ∃ bytes, text = String.ofList (join bytes (Digest.Hmac.tag key.bytes bytes)) ∧
        Payload.ofBytes? bytes = some payload) ∧
    (∀ other payload otherPayload bytes tag otherTag,
      verify (.keyed key) text = .ok payload → verify (.keyed key) other = .ok otherPayload →
        split? text.toList = some (bytes, tag) → split? other.toList = some (bytes, otherTag) →
          other = text) ∧
    ∀ payload signed accepted, sign (.keyed key) payload = .ok signed →
      verify (.keyed key) text = .ok accepted → text ≠ signed.text →
        ∃ bytes, split? text.toList = some (bytes, Digest.Hmac.tag key.bytes bytes) ∧
          Payload.ofBytes? bytes = some accepted ∧ bytes ≠ payload.toBytes := by
  refine ⟨?_, fun payload ↦ verify_keyed_eq_ok_iff, ?_, ?_⟩
  · cases hverify : verify (.keyed key) text with
    | ok payload => exact .inl ⟨payload, rfl⟩
    | error error => exact .inr (by rw [eq_signatureMismatch hverify])
  · intro other payload otherPayload bytes tag otherTag htext hother hbytes hotherBytes
    obtain ⟨first, rfl, -⟩ := verify_keyed_eq_ok_iff.1 htext
    obtain ⟨second, rfl, -⟩ := verify_keyed_eq_ok_iff.1 hother
    rw [String.toList_ofList, split?_join] at hbytes hotherBytes
    obtain ⟨rfl, -⟩ := Prod.mk.inj (Option.some.inj hbytes)
    obtain ⟨rfl, -⟩ := Prod.mk.inj (Option.some.inj hotherBytes)
    rfl
  · intro payload signed accepted hsign htext hne
    obtain ⟨bytes, rfl, hread⟩ := verify_keyed_eq_ok_iff.1 htext
    refine ⟨bytes, by rw [String.toList_ofList, split?_join], hread, ?_⟩
    rintro rfl
    rw [sign_keyed] at hsign
    obtain rfl := Except.ok.inj hsign
    exact hne rfl

/-- The same payload written as an array, and signed with the same key, is accepted as well; its
bytes are not the written form. -/
theorem verify_keyed_genuine_array :
    let key : SigningKey := ⟨[0x6b], by decide⟩
    let payload : Payload := ⟨5, none, "s", "t"⟩
    let bytes := Bytes.Utf8.ofText "[5,null,\"s\",\"t\"]"
    let text := String.ofList (join bytes (Digest.Hmac.tag key.bytes bytes))
    verify (.keyed key) text = .ok payload ∧
      ∃ other, split? text.toList = some (other, Digest.Hmac.tag key.bytes other) ∧
        Payload.ofBytes? other = some payload ∧ other ≠ payload.toBytes := by
  intro key payload bytes text
  have hread : Payload.ofBytes? bytes = some payload := by decide +kernel
  have hverify := ((verify_keyed_genuine key text).2.1 payload).2 ⟨bytes, rfl, hread⟩
  have hne :
      text ≠ (⟨payload, Digest.Hmac.tag key.bytes payload.toBytes⟩ : SignedMetadata).text := by
    intro htext
    have hsplit := congrArg split? (String.ofList_injective htext)
    rw [split?_join, split?_join] at hsplit
    exact absurd (Prod.mk.inj (Option.some.inj hsplit)).1 (by decide +kernel)
  exact ⟨hverify, (verify_keyed_genuine key text).2.2.2 payload _ payload (sign_keyed key payload)
    hverify hne⟩

end TokenMint.SignedMetadata
