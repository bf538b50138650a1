import TokenMint.Json.Skip

/-!
# The signed fields of a token

A `Payload` says when a token was issued, when it expires, which chain of scopes minted it and what
it is. It has one written form, a JSON object with the four fields in a fixed order (`toBytes`).
`ofBytes?` reads more: an object with its fields in any order and with unknown fields, whose values
are passed over, or an array of the four values in the order of the written form. No known field may
occur twice, and only the expiry may be missing.
-/

set_option autoImplicit false
set_option relaxedAutoImplicit false

namespace TokenMint

/-- What is signed about a token. -/
structure Payload where
  /-- The second in which the token was issued. -/
  issuedAt : UInt64
  /-- The first second in which the token has expired, if it ever expires. -/
  expiresAt : Option UInt64
  /-- The key of the chain of scopes. -/
  scope : String
  /-- The token. -/
  token : String
  deriving DecidableEq

namespace Payload

/-- Whether the token has expired in the given second. -/
def isExpiredAt (payload : Payload) (second : UInt64) : Bool :=
  payload.expiresAt.any (· ≤ second)

/-! ### Writing -/

/-- The word that stands for a missing value. -/
def nullWord : List UInt8 :=
  [0x6e, 0x75, 0x6c, 0x6c]

/-- An expiry, or the word for none. -/
def writeExpiry : Option UInt64 → List UInt8
  | none => nullWord
  | some second => Json.writeWord second

/-- A field: its name, a colon and its value. -/
def writeField (name : String) (value : List UInt8) : List UInt8 :=
  Json.writeString name ++ Json.colon :: value

/-- The written form. -/
def toBytes (payload : Payload) : List UInt8 :=
  Json.objectOpen :: writeField "issued_at" (Json.writeWord payload.issuedAt) ++
    Json.comma :: writeField "expires_at" (writeExpiry payload.expiresAt) ++
    Json.comma :: writeField "scope" (Json.writeString payload.scope) ++
    Json.comma :: writeField "token" (Json.writeString payload.token) ++
    [Json.objectClose]

/-! ### Reading -/

/-- The fields of an object that have been read so far. -/
structure Draft where
  issuedAt : Option UInt64
  expiresAt : Option (Option UInt64)
  scope : Option String
  token : Option String

/-- The object of which nothing has been read. -/
def Draft.empty : Draft :=
  ⟨none, none, none, none⟩

/-- The payload of an object that has been read to its end. -/
def Draft.finish? (draft : Draft) : Option Payload := do
  let issuedAt ← draft.issuedAt
  let scope ← draft.scope
  let token ← draft.token
  return ⟨issuedAt, draft.expiresAt.getD none, scope, token⟩

/-- The expiry that comes next, and what follows it. -/
def readExpiry? (text : List UInt8) : Option (Option UInt64 × List UInt8) :=
  match Json.drop? nullWord (Json.skipBlanks text) with
  | some rest => some (none, rest)
  | none => (Json.word? text).map fun read ↦ (some read.1, read.2)

/-- The value that comes next, unless the field has one already, and what follows it. -/
def readOnce? {α : Type} (field : Option α) (read : List UInt8 → Option (α × List UInt8))
    (text : List UInt8) : Option (Option α × List UInt8) :=
  match field with
  | some _ => none
  | none => (read text).map fun read ↦ (some read.1, read.2)

/-- The draft with the value of the named field that comes next, and what follows it. -/
def readMember? (name : String) (draft : Draft) (text : List UInt8) :
    Option (Draft × List UInt8) :=
  if name = "issued_at" then do
    let (value, rest) ← readOnce? draft.issuedAt Json.word? text
    return ({ draft with issuedAt := value }, rest)
  else if name = "expires_at" then do
    let (value, rest) ← readOnce? draft.expiresAt readExpiry? text
    return ({ draft with expiresAt := value }, rest)
  else if name = "scope" then do
    let (value, rest) ← readOnce? draft.scope Json.string? text
    return ({ draft with scope := value }, rest)
  else if name = "token" then do
    let (value, rest) ← readOnce? draft.token Json.string? text
    return ({ draft with token := value }, rest)
  else do
    let rest ← Json.skipValue? text
    return (draft, rest)

/-- The draft with the members up to the closing brace, and what follows the brace. There are fewer
members than bytes. -/
def readMembers? : Nat → Draft → List UInt8 → Option (Draft × List UInt8)
  | 0, _, _ => none
  | fuel + 1, draft, text => do
    let (name, rest) ← Json.string? text
    let rest ← Json.after? Json.colon rest
    let (draft, rest) ← readMember? name draft rest
    match Json.after? Json.comma rest with
    | some rest => readMembers? fuel draft rest
    | none => do
      let rest ← Json.after? Json.objectClose rest
      return (draft, rest)

/-- The payload of an object whose opening brace has been read, and what follows it. An object
without members is no payload. -/
def readObject? (text : List UInt8) : Option (Payload × List UInt8) := do
  let (draft, rest) ← readMembers? text.length .empty text
  let payload ← draft.finish?
  return (payload, rest)

/-- The payload of an array whose opening bracket has been read, and what follows it. -/
def readArray? (text : List UInt8) : Option (Payload × List UInt8) := do
  let (issuedAt, rest) ← Json.word? text
  let rest ← Json.after? Json.comma rest
  let (expiresAt, rest) ← readExpiry? rest
  let rest ← Json.after? Json.comma rest
  let (scope, rest) ← Json.string? rest
  let rest ← Json.after? Json.comma rest
  let (token, rest) ← Json.string? rest
  let rest ← Json.after? Json.arrayClose rest
  return (⟨issuedAt, expiresAt, scope, token⟩, rest)

/-- The payload that the bytes hold, with nothing but blanks around it. -/
def ofBytes? (text : List UInt8) : Option Payload := do
  let (payload, rest) ←
    match Json.after? Json.objectOpen text with
    | some rest => readObject? rest
    | none => (Json.after? Json.arrayOpen text).bind readArray?
  if Json.skipBlanks rest = [] then some payload else none

end Payload

end TokenMint
