import TokenMint.Metadata.Payload
import TokenMint.Proofs.Json.Lexeme

/-!
# Payloads are read back

`Payload.ofBytes?` reads the payload back from its written form (`Payload.ofBytes?_toBytes`). The
reader takes the members of the object one by one. What it does with a member of the written form is
said once, for any field: it reads the value and goes on after the comma, or stops after the closing
brace.
-/

set_option autoImplicit false
set_option relaxedAutoImplicit false

namespace TokenMint.Payload

/-! ### Values -/

/-- An expiry is read back, if no digit follows. -/
theorem readExpiry?_writeExpiry (expiry : Option UInt64) {rest : List UInt8}
    (hrest : ∀ byte ∈ rest.head?, Json.isDigit byte = false) :
    readExpiry? (writeExpiry expiry ++ rest) = some (expiry, rest) := by
  cases expiry with
  | none => rfl
  | some second =>
    have hnumber :
        Json.drop? nullWord (Json.skipBlanks (Json.writeWord second ++ rest)) = none := by
      rw [Json.skipBlanks_writeWord]
      cases hword : Json.writeWord second with
      | nil => simp [Json.writeWord_eq, Nat.toDigits_ne_nil] at hword
      | cons first others =>
        have hfirst := Json.isDigit_of_mem_writeWord second first (hword ▸ List.mem_cons_self)
        refine if_neg ?_
        rintro rfl
        exact absurd hfirst (by decide)
    simp only [readExpiry?, writeExpiry, hnumber, Json.word?_writeWord second hrest,
      Option.map_some]

/-! ### Members -/

theorem readOnce?_none {α : Type} {read : List UInt8 → Option (α × List UInt8)}
    {text rest : List UInt8} {value : α} (hread : read text = some (value, rest)) :
    readOnce? none read text = some (some value, rest) := by
  simp only [readOnce?, hread, Option.map_some]

/-- A member that a comma follows is read, and then the members after it. -/
theorem readMembers?_comma {name : String} {value rest : List UInt8} {draft next : Draft}
    (hmember : readMember? name draft (value ++ Json.comma :: rest) =
      some (next, Json.comma :: rest)) (fuel : Nat) :
    readMembers? (fuel + 1) draft (writeField name value ++ Json.comma :: rest) =
      readMembers? fuel next rest := by
  simp only [readMembers?, writeField, List.append_assoc, Json.string?_writeString,
    List.cons_append, Json.after?_cons (show Json.isBlank Json.colon = false by decide), hmember,
    Json.after?_cons (show Json.isBlank Json.comma = false by decide), Option.bind_eq_bind,
    Option.bind_some]

/-- A member that the closing brace follows is the last one. -/
theorem readMembers?_close {name : String} {value rest : List UInt8} {draft next : Draft}
    (hmember : readMember? name draft (value ++ Json.objectClose :: rest) =
      some (next, Json.objectClose :: rest)) (fuel : Nat) :
    readMembers? (fuel + 1) draft (writeField name value ++ Json.objectClose :: rest) =
      some (next, rest) := by
  simp only [readMembers?, writeField, List.append_assoc, Json.string?_writeString,
    List.cons_append, Json.after?_cons (show Json.isBlank Json.colon = false by decide), hmember,
    Json.after?_cons (show Json.isBlank Json.objectClose = false by decide),
    Json.after?_cons_of_ne (show Json.isBlank Json.objectClose = false by decide)
      (show Json.objectClose ≠ Json.comma by decide), Option.bind_eq_bind, Option.bind_some,
    Option.pure_def]

/-- No digit stands where a member ends. -/
theorem not_isDigit_comma (rest : List UInt8) :
    ∀ byte ∈ (Json.comma :: rest).head?, Json.isDigit byte = false := by
  rintro byte ⟨⟩
  rfl

variable {draft : Draft}

theorem readMember?_issuedAt (hdraft : draft.issuedAt = none) (second : UInt64)
    (rest : List UInt8) :
    readMember? "issued_at" draft (Json.writeWord second ++ Json.comma :: rest) =
      some ({ draft with issuedAt := some second }, Json.comma :: rest) := by
  have hread := readOnce?_none (Json.word?_writeWord second (not_isDigit_comma rest))
  simp only [readMember?, hdraft, hread, if_true, Option.bind_eq_bind, Option.bind_some,
    Option.pure_def]

theorem readMember?_expiresAt (hdraft : draft.expiresAt = none) (expiry : Option UInt64)
    (rest : List UInt8) :
    readMember? "expires_at" draft (writeExpiry expiry ++ Json.comma :: rest) =
      some ({ draft with expiresAt := some expiry }, Json.comma :: rest) := by
  have hread := readOnce?_none (readExpiry?_writeExpiry expiry (not_isDigit_comma rest))
  simp only [readMember?, hdraft, hread, String.reduceEq, if_false, if_true, Option.bind_eq_bind,
    Option.bind_some, Option.pure_def]

theorem readMember?_scope (hdraft : draft.scope = none) (scope : String) (rest : List UInt8) :
    readMember? "scope" draft (Json.writeString scope ++ rest) =
      some ({ draft with scope := some scope }, rest) := by
  have hread := readOnce?_none (Json.string?_writeString scope rest)
  simp only [readMember?, hdraft, hread, String.reduceEq, if_false, if_true, Option.bind_eq_bind,
    Option.bind_some, Option.pure_def]

theorem readMember?_token (hdraft : draft.token = none) (token : String) (rest : List UInt8) :
    readMember? "token" draft (Json.writeString token ++ rest) =
      some ({ draft with token := some token }, rest) := by
  have hread := readOnce?_none (Json.string?_writeString token rest)
  simp only [readMember?, hdraft, hread, String.reduceEq, if_false, if_true, Option.bind_eq_bind,
    Option.bind_some, Option.pure_def]

/-! ### Payloads -/

/-- The members of the written form. -/
def members (payload : Payload) : List UInt8 :=
  writeField "issued_at" (Json.writeWord payload.issuedAt) ++ Json.comma ::
    (writeField "expires_at" (writeExpiry payload.expiresAt) ++ Json.comma ::
      (writeField "scope" (Json.writeString payload.scope) ++ Json.comma ::
        (writeField "token" (Json.writeString payload.token) ++ [Json.objectClose])))

theorem toBytes_eq (payload : Payload) :
    payload.toBytes = Json.objectOpen :: payload.members := by
  simp only [toBytes, members, List.cons_append, List.append_assoc]

/-- Four steps take the four members. -/
theorem readMembers?_members (payload : Payload) (fuel : Nat) :
    readMembers? (fuel + 4) .empty payload.members =
      some (⟨some payload.issuedAt, some payload.expiresAt, some payload.scope,
        some payload.token⟩, []) := by
  rw [members, readMembers?_comma (readMember?_issuedAt rfl payload.issuedAt _),
    readMembers?_comma (readMember?_expiresAt rfl payload.expiresAt _),
    readMembers?_comma (readMember?_scope rfl payload.scope _),
    readMembers?_close (readMember?_token rfl payload.token _)]

/-- A payload is read back from its written form. -/
theorem ofBytes?_toBytes (payload : Payload) : ofBytes? payload.toBytes = some payload := by
  have hopen : Json.after? Json.objectOpen payload.toBytes = some payload.members := by
    rw [toBytes_eq]
    exact Json.after?_cons rfl _
  obtain ⟨fuel, hfuel⟩ : ∃ fuel, payload.members.length = fuel + 4 := by
    refine ⟨payload.members.length - 4, ?_⟩
    have hlength : 4 ≤ payload.members.length := by
      simp only [members, List.length_append, List.length_cons]
      omega
    omega
  have hread : readObject? payload.members = some (payload, []) := by
    simp only [readObject?, hfuel, readMembers?_members, Draft.finish?, Option.bind_eq_bind,
      Option.bind_some, Option.pure_def, Option.getD_some]
  simp only [ofBytes?, hopen, hread, Option.bind_eq_bind, Option.bind_some]
  rfl

end TokenMint.Payload
