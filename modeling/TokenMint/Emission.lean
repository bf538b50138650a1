import TokenMint.Cache.Slot
import TokenMint.Table

/-!
# Handing tokens over

An `Emission` holds the tokens for one request: those of the chain of scopes and those of each named
token. It is written out as a list of assignments to headers and environment variables. A token that
is alone takes the configured name; several tokens take the name with their position, counted from
one. The signature of a token goes before it, under the name of the token with a fixed ending.
`Outputs` records assignments, of which the last one to a target counts (`header?_assign`,
`environment?_assign`).
-/

set_option autoImplicit false
set_option relaxedAutoImplicit false

namespace TokenMint

/-- Where a value is written. -/
inductive Target where
  | header (name : String)
  | environment (name : String)
  deriving DecidableEq

/-- A value and where it is written. -/
structure Assignment where
  target : Target
  value : String
  deriving DecidableEq

/-- The tokens of one key and the names under which they are handed over. -/
structure EmittedTokens where
  key : String
  served : Served
  header : Option String
  environment : Option String
  deriving DecidableEq

/-- The tokens for one request. -/
structure Emission where
  main : EmittedTokens
  /-- The named tokens in the order of their declaration. -/
  named : List EmittedTokens
  deriving DecidableEq

/-- How the names of one kind of target are formed. -/
structure NameStyle where
  /-- The target of a name. -/
  target : String → Target
  /-- What stands between a name and a position. -/
  separator : String
  /-- The ending of the name of a signature. -/
  signatureEnding : String

namespace NameStyle

/-- Names of headers. -/
def header : NameStyle :=
  ⟨.header, "-", "-Signature"⟩

/-- Names of environment variables. -/
def environment : NameStyle :=
  ⟨.environment, "_", "_SIG"⟩

/-- The name of a token at a position, or of the only token. -/
def tokenName (style : NameStyle) (base : String) : Option Nat → String
  | none => base
  | some position => base ++ style.separator ++ Nat.repr position

/-- The name of the signature of the token with the given name. -/
def signatureName (style : NameStyle) (name : String) : String :=
  name ++ style.signatureEnding

/-- The assignments of one token, if its kind of target has a name. -/
def assignments (style : NameStyle) (base : Option String) (position : Option Nat) (token : String)
    (signature : Option String) : List Assignment :=
  match base with
  | none => []
  | some base =>
    let name := style.tokenName base position
    let signed := signature.map fun text ↦ ⟨style.target (style.signatureName name), text⟩
    signed.toList ++ [⟨style.target name, token⟩]

end NameStyle

namespace EmittedTokens

/-- The position by which a token is named, if there are several. -/
def position (emitted : EmittedTokens) (index : Nat) : Option Nat :=
  if 1 < emitted.served.minted.tokens.length then some (index + 1) else none

/-- The assignments of the token at an index. -/
def tokenAssignments (emitted : EmittedTokens) (token : String) (index : Nat) : List Assignment :=
  let position := emitted.position index
  let signature := emitted.served.minted.signatures[index]?
  NameStyle.header.assignments emitted.header position token signature ++
    NameStyle.environment.assignments emitted.environment position token signature

/-- The assignments of all tokens of the key. -/
def assignments (emitted : EmittedTokens) : List Assignment :=
  emitted.served.minted.tokens.zipIdx.flatMap fun entry ↦
    emitted.tokenAssignments entry.1 entry.2

end EmittedTokens

namespace Emission

/-- The assignments of all tokens, named ones last. -/
def assignments (emission : Emission) : List Assignment :=
  emission.main.assignments ++ emission.named.flatMap EmittedTokens.assignments

/-- The named token of a variable; of several, the one that was declared last. -/
def namedToken? (emission : Emission) (name : String) : Option EmittedTokens :=
  emission.named.reverse.find? fun emitted ↦ decide (emitted.environment = some name)

end Emission

/-- The values that have been written. -/
structure Outputs where
  headers : Table String
  environment : Table String

namespace Outputs

/-- Nothing has been written. -/
def empty : Outputs :=
  ⟨.empty, .empty⟩

/-- Writes a value. -/
def assign (outputs : Outputs) (assignment : Assignment) : Outputs :=
  match assignment.target with
  | .header name => { outputs with headers := outputs.headers.insert name assignment.value }
  | .environment name =>
    { outputs with environment := outputs.environment.insert name assignment.value }

/-- Writes several values in order. -/
def assignAll (outputs : Outputs) (assignments : List Assignment) : Outputs :=
  assignments.foldl assign outputs

/-- The value of a header. -/
def header? (outputs : Outputs) (name : String) : Option String :=
  outputs.headers.get? name

/-- The value of an environment variable. -/
def environment? (outputs : Outputs) (name : String) : Option String :=
  outputs.environment.get? name

/-- Whether nothing has been written. -/
def isEmpty (outputs : Outputs) : Bool :=
  outputs.headers.size == 0 && outputs.environment.size == 0

theorem header?_assign (outputs : Outputs) (assignment : Assignment) (name : String) :
    (outputs.assign assignment).header? name =
      if assignment.target = .header name then some assignment.value
      else outputs.header? name := by
  obtain ⟨target, value⟩ := assignment
  cases target with
  | header other => simp [assign, header?, Table.get?_insert, eq_comm]
  | environment other => simp [assign, header?]

theorem environment?_assign (outputs : Outputs) (assignment : Assignment) (name : String) :
    (outputs.assign assignment).environment? name =
      if assignment.target = .environment name then some assignment.value
      else outputs.environment? name := by
  obtain ⟨target, value⟩ := assignment
  cases target with
  | header other => simp [assign, environment?]
  | environment other => simp [assign, environment?, Table.get?_insert, eq_comm]

end Outputs

end TokenMint
