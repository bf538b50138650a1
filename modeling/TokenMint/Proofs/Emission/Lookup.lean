import TokenMint.Proofs.Emission.Names

/-!
# Looking named tokens up

A named token can be looked up in an emission by its variable, and its variable can be read after
the emission has been written. Of several named tokens with one name both give the last one: the
lookup goes through the entries from the end, and a variable has the value that was written last.

The lookup knows the variables of tokens only, while signatures are written to variables as well.
The two agree if no named token has the name of another one's signature
(`Emission.lookup_agrees_with_outputs`), and without this they need not: the signature of a token
`A` takes the place of a token `A_SIG` that stands before it
(`Emission.signature_in_place_of_token`).
-/

set_option autoImplicit false
set_option relaxedAutoImplicit false

namespace TokenMint

/-- The name of a signature is not that of its token. -/
theorem self_ne_append {name : String} : name ≠ name ++ "_SIG" := by
  intro hsame
  have hchars := congrArg String.toList hsame
  rw [String.toList_append, List.self_eq_append_right] at hchars
  exact absurd hchars (by decide)

theorem NameStyle.exists_target_of_mem_assignments {style : NameStyle} {base : Option String}
    {position : Option Nat} {token : String} {signature : Option String} {assignment : Assignment}
    (hmem : assignment ∈ style.assignments base position token signature) :
    ∃ name, assignment.target = style.target name := by
  cases base with
  | none => nomatch hmem
  | some base =>
    rcases List.mem_append.1 hmem with hsignature | htoken
    · obtain ⟨text, -, rfl⟩ := Option.map_eq_some_iff.1 (Option.mem_toList.1 hsignature)
      exact ⟨_, rfl⟩
    · obtain rfl := List.mem_singleton.1 htoken
      exact ⟨_, rfl⟩

namespace EmittedTokens

/-- What is handed over for a named token: a single token in a variable, signed at most once. -/
structure IsNamed (entry : EmittedTokens) : Prop where
  named : ∃ name, entry.environment = some name
  single : ∃ token, entry.served.minted.tokens = [token]
  signed_once : entry.served.minted.signatures.length ≤ 1

/-- Whether the signature of an entry is written to a variable. -/
def SignsTo (entry : EmittedTokens) (name : String) : Prop :=
  entry.served.minted.signatures ≠ [] ∧
    ∃ base, entry.environment = some base ∧ base ++ "_SIG" = name

variable {entry : EmittedTokens} {name token : String}

/-- A single token is written last, and right behind its signature. -/
theorem assignments_of_single (hname : entry.environment = some name)
    (htoken : entry.served.minted.tokens = [token]) :
    entry.assignments =
      NameStyle.header.assignments entry.header none token entry.served.minted.signatures[0]? ++
        ((entry.served.minted.signatures[0]?.map fun signature ↦
          (⟨.environment (name ++ "_SIG"), signature⟩ : Assignment)).toList ++
        [⟨.environment name, token⟩]) := by
  have hposition : entry.position 0 = none := by
    rw [position, htoken]
    rfl
  rw [assignments, htoken]
  simp only [List.zipIdx_cons, List.zipIdx_nil, List.flatMap_cons, List.flatMap_nil,
    List.append_nil, tokenAssignments, hposition, hname]
  rfl

/-- A named token is written to no variables but its own and that of its signature. -/
theorem IsNamed.target_ne (hentry : entry.IsNamed) (hname : entry.environment ≠ some name)
    (hsigns : ¬ entry.SignsTo name) :
    ∀ assignment ∈ entry.assignments, assignment.target ≠ .environment name := by
  intro assignment hmem htarget
  obtain ⟨base, hbase⟩ := hentry.named
  obtain ⟨token, htoken⟩ := hentry.single
  rw [assignments_of_single hbase htoken] at hmem
  rcases List.mem_append.1 hmem with hheader | henvironment
  · obtain ⟨other, hother⟩ := NameStyle.exists_target_of_mem_assignments hheader
    nomatch hother.symm.trans htarget
  · rcases List.mem_append.1 henvironment with hsignature | hlast
    · obtain ⟨signature, hsigned, rfl⟩ := Option.map_eq_some_iff.1 (Option.mem_toList.1 hsignature)
      refine hsigns ⟨fun hnone ↦ ?_, base, hbase, Target.environment.inj htarget⟩
      rw [hnone] at hsigned
      nomatch hsigned
    · obtain rfl := List.mem_singleton.1 hlast
      exact hname (hbase.trans (congrArg some (Target.environment.inj htarget)))

theorem IsNamed.getElem?_zero_of_mem (hentry : entry.IsNamed) {signature : String}
    (hmem : signature ∈ entry.served.minted.signatures) :
    entry.served.minted.signatures[0]? = some signature := by
  obtain ⟨index, hindex, hget⟩ := List.mem_iff_getElem.1 hmem
  have hzero : index = 0 := by
    have := hentry.signed_once
    omega
  exact List.getElem?_eq_some_iff.2 ⟨hzero ▸ hindex, by simpa only [hzero] using hget⟩

end EmittedTokens

namespace Emission

variable {emission : Emission} {name : String} {found : EmittedTokens}

/-- The named token that is found is the last one of its name. -/
theorem exists_append_of_namedToken?_eq_some (hfound : emission.namedToken? name = some found) :
    found.environment = some name ∧ ∃ before after, emission.named = before ++ found :: after ∧
      ∀ later ∈ after, later.environment ≠ some name := by
  obtain ⟨hname, after, before, hsplit, hafter⟩ := List.find?_eq_some_iff_append.1 hfound
  refine ⟨of_decide_eq_true hname, before.reverse, after.reverse, ?_, fun later hlater ↦ ?_⟩
  · rw [← List.reverse_reverse emission.named, hsplit, List.reverse_append, List.reverse_cons,
      List.append_assoc, List.singleton_append]
  · simpa using hafter later (List.mem_reverse.1 hlater)

/-- A value of an entry can be read if neither the rest of the entry nor an entry behind it is
written to the same target. -/
theorem get?_of_split {before after : List EmittedTokens}
    (hsplit : emission.named = before ++ found :: after) {front back : List Assignment}
    {assignment : Assignment} (hentry : found.assignments = front ++ assignment :: back)
    (hback : ∀ other ∈ back, other.target ≠ assignment.target)
    (hafter : ∀ later ∈ after, ∀ other ∈ later.assignments, other.target ≠ assignment.target) :
    (Outputs.empty.assignAll emission.assignments).get? assignment.target =
      some assignment.value := by
  have hassignments : emission.assignments =
      (emission.main.assignments ++ (before.flatMap EmittedTokens.assignments ++ front)) ++
        assignment :: (back ++ after.flatMap EmittedTokens.assignments) := by
    rw [assignments, hsplit, List.flatMap_append, List.flatMap_cons, hentry]
    simp only [List.append_assoc, List.cons_append]
  rw [hassignments]
  refine Outputs.get?_assignAll_append .empty _ assignment fun other hother ↦ ?_
  rcases List.mem_append.1 hother with hrest | hlater
  · exact hback other hrest
  · obtain ⟨later, hmem, hwritten⟩ := List.mem_flatMap.1 hlater
    exact hafter later hmem other hwritten

/-- Whether a named token can be read where it was looked up, and its signature beside it. -/
structure ReadAs (outputs : Outputs) (name : String) (found : EmittedTokens) : Prop where
  token : ∃ token, found.served.minted.tokens = [token] ∧ outputs.environment? name = some token
  signature : ∀ signature ∈ found.served.minted.signatures,
    outputs.environment? (name ++ "_SIG") = some signature

/-- What is looked up under the name of a variable is what is written to the variable, if no named
token has the name of another one's signature. -/
theorem lookup_agrees_with_outputs (emission : Emission)
    (hnamed : ∀ entry ∈ emission.named, entry.IsNamed)
    (hapart : ∀ entry ∈ emission.named, ∀ other ∈ emission.named, ∀ name,
      entry.environment = some name → ¬ other.SignsTo name) (name : String) (found : EmittedTokens)
    (hfound : emission.namedToken? name = some found) :
    ReadAs (Outputs.empty.assignAll emission.assignments) name found := by
  obtain ⟨hname, before, after, hsplit, hlast⟩ := exists_append_of_namedToken?_eq_some hfound
  have hmem : found ∈ emission.named := by simp [hsplit]
  have hlater : ∀ later ∈ after, later ∈ emission.named := fun later h ↦ by simp [hsplit, h]
  obtain ⟨token, htoken⟩ := (hnamed found hmem).single
  have hentry := EmittedTokens.assignments_of_single hname htoken
  constructor
  case token =>
    refine ⟨token, htoken, ?_⟩
    rw [← List.append_assoc] at hentry
    refine get?_of_split hsplit hentry (List.forall_mem_nil _) fun later hafter ↦ ?_
    exact (hnamed later (hlater later hafter)).target_ne (hlast later hafter)
      (hapart found hmem later (hlater later hafter) name hname)
  case signature =>
    intro signature hsignature
    have hsigned := (hnamed found hmem).getElem?_zero_of_mem hsignature
    rw [hsigned] at hentry
    refine get?_of_split hsplit hentry ?_ fun later hafter ↦ ?_
    · intro other hother
      obtain rfl := List.mem_singleton.1 hother
      exact fun hsame ↦ self_ne_append (Target.environment.inj hsame)
    · have hsigns : found.SignsTo (name ++ "_SIG") :=
        ⟨List.ne_nil_of_mem hsignature, name, hname, rfl⟩
      refine (hnamed later (hlater later hafter)).target_ne
        (fun hother ↦ hapart later (hlater later hafter) found hmem _ hother hsigns) ?_
      rintro ⟨-, base, hbase, hending⟩
      exact hlast later hafter (hbase.trans (congrArg some ((String.append_left_inj _).1 hending)))

/-- A signed token, as it is handed over in a variable. -/
def signedToken (name : String) : EmittedTokens :=
  ⟨"site#" ++ name, ⟨⟨["token of " ++ name], ["mark of " ++ name], Duration.ofSeconds 1⟩,
    .generated⟩, none, some name⟩

/-- Two named tokens with the names `first` and `second`. -/
def pairOf (first second : String) : Emission :=
  ⟨⟨"site", ⟨⟨["token"], [], Duration.ofSeconds 1⟩, .generated⟩, none, some "TOKEN"⟩,
    [signedToken first, signedToken second]⟩

theorem lookup_agrees_with_outputs_pairOf :
    (pairOf "A" "B").namedToken? "A" = some (signedToken "A") ∧
      ReadAs (Outputs.empty.assignAll (pairOf "A" "B").assignments) "A" (signedToken "A") := by
  have hfound : (pairOf "A" "B").namedToken? "A" = some (signedToken "A") := by decide
  refine ⟨hfound, lookup_agrees_with_outputs (pairOf "A" "B") ?_ ?_ "A" _ hfound⟩
  · intro entry hentry
    rcases List.mem_pair.1 hentry with rfl | rfl
    · exact ⟨⟨"A", rfl⟩, ⟨_, rfl⟩, Nat.le_refl 1⟩
    · exact ⟨⟨"B", rfl⟩, ⟨_, rfl⟩, Nat.le_refl 1⟩
  · intro entry hentry other hother name hname
    rintro ⟨-, base, hbase, hending⟩
    rcases List.mem_pair.1 hentry with rfl | rfl <;>
      rcases List.mem_pair.1 hother with rfl | rfl <;>
      obtain rfl := Option.some.inj hname <;> obtain rfl := Option.some.inj hbase <;>
      exact absurd hending (by decide)

/-- The signature of a token `A` is read where a token `A_SIG` is looked up. -/
theorem signature_in_place_of_token :
    (pairOf "A_SIG" "A").namedToken? "A_SIG" = some (signedToken "A_SIG") ∧
      (Outputs.empty.assignAll (pairOf "A_SIG" "A").assignments).environment? "A_SIG" =
        some "mark of A" ∧
      ¬ ReadAs (Outputs.empty.assignAll (pairOf "A_SIG" "A").assignments) "A_SIG"
        (signedToken "A_SIG") := by
  have hread : (Outputs.empty.assignAll (pairOf "A_SIG" "A").assignments).environment? "A_SIG" =
      some "mark of A" := by decide +kernel
  refine ⟨by decide, hread, ?_⟩
  rintro ⟨⟨token, htokens, htoken⟩, -⟩
  obtain rfl := Option.some.inj (hread.symm.trans htoken)
  exact absurd htokens (by decide)

end Emission

end TokenMint
