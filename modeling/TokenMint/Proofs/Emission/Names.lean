import Mathlib.Data.List.Nodup
import Mathlib.Data.List.Perm.Basic
import TokenMint.Emission
import TokenMint.Proofs.Text.Words

/-!
# Names of outputs

A token set is written under names that are formed from a configured name, the position of a token
and the ending of signatures. A position is written with digits only, and the endings of signatures
are not (`NameStyle.EndsApart`), so no two of these names are the same, whatever the configured name
is (`NameStyle.nodup_documented`).

A target has the value that was written to it last: what is written to other targets afterwards
leaves it alone (`Outputs.get?_assignAll_append`). Since no target of a token set is written twice,
each of them can be read after all has been written, and nothing else can
(`EmittedTokens.outputs_kept_apart`).
-/

set_option autoImplicit false
set_option relaxedAutoImplicit false

namespace TokenMint

/-! ### What is read after writing -/

namespace Outputs

/-- The value of a target. -/
def get? (outputs : Outputs) : Target → Option String
  | .header name => outputs.header? name
  | .environment name => outputs.environment? name

@[simp]
theorem get?_empty (target : Target) : empty.get? target = none := by
  cases target <;> rfl

theorem get?_assign (outputs : Outputs) (assignment : Assignment) (target : Target) :
    (outputs.assign assignment).get? target =
      if assignment.target = target then some assignment.value else outputs.get? target := by
  cases target with
  | header name => exact header?_assign outputs assignment name
  | environment name => exact environment?_assign outputs assignment name

theorem assignAll_append (outputs : Outputs) (first second : List Assignment) :
    outputs.assignAll (first ++ second) = (outputs.assignAll first).assignAll second :=
  List.foldl_append

/-- A target that is not written to keeps its value. -/
theorem get?_assignAll_of_forall_ne (outputs : Outputs) {assignments : List Assignment}
    {target : Target} (hothers : ∀ assignment ∈ assignments, assignment.target ≠ target) :
    (outputs.assignAll assignments).get? target = outputs.get? target := by
  induction assignments generalizing outputs with
  | nil => rfl
  | cons assignment rest ih =>
    obtain ⟨hfirst, hrest⟩ := List.forall_mem_cons.1 hothers
    exact (ih (outputs.assign assignment) hrest).trans
      ((get?_assign outputs assignment target).trans (if_neg hfirst))

/-- A target has the value that was written to it last. -/
theorem get?_assignAll_append (outputs : Outputs) (before : List Assignment)
    (assignment : Assignment) {after : List Assignment}
    (hafter : ∀ later ∈ after, later.target ≠ assignment.target) :
    (outputs.assignAll (before ++ assignment :: after)).get? assignment.target =
      some assignment.value := by
  have hkept := get?_assignAll_of_forall_ne ((outputs.assignAll before).assign assignment) hafter
  rw [assignAll_append]
  exact hkept.trans ((get?_assign _ assignment _).trans (if_pos rfl))

/-- If no target is written to twice, each assignment can be read. -/
theorem get?_assignAll_of_mem (outputs : Outputs) {assignments : List Assignment}
    (hnodup : (assignments.map Assignment.target).Nodup) {assignment : Assignment}
    (hmem : assignment ∈ assignments) :
    (outputs.assignAll assignments).get? assignment.target = some assignment.value := by
  obtain ⟨before, after, rfl⟩ := List.append_of_mem hmem
  rw [List.map_append, List.map_cons, List.nodup_append, List.nodup_cons] at hnodup
  exact get?_assignAll_append outputs before assignment fun later hlater hsame ↦
    hnodup.2.1.1 (List.mem_map.2 ⟨later, hlater, hsame⟩)

/-- If no target is written to twice, the values are what was written. -/
theorem get?_assignAll_empty_iff {assignments : List Assignment}
    (hnodup : (assignments.map Assignment.target).Nodup) (target : Target) (value : String) :
    (empty.assignAll assignments).get? target = some value ↔ ⟨target, value⟩ ∈ assignments := by
  refine ⟨fun hget ↦ ?_, get?_assignAll_of_mem empty hnodup⟩
  by_cases hwritten : ∃ assignment ∈ assignments, assignment.target = target
  · obtain ⟨assignment, hmem, rfl⟩ := hwritten
    obtain rfl := Option.some.inj ((get?_assignAll_of_mem empty hnodup hmem).symm.trans hget)
    exact hmem
  · rw [get?_assignAll_of_forall_ne empty fun assignment hmem hsame ↦
      hwritten ⟨assignment, hmem, hsame⟩, get?_empty] at hget
    nomatch hget

end Outputs

/-! ### Names -/

theorem repr_injective {m n : Nat} (h : Nat.repr m = Nat.repr n) : m = n := by
  rw [← Text.Numeral.value_repr m, h, Text.Numeral.value_repr]

namespace NameStyle

/-- The name of the token at an index among so many tokens: the plain name of a token that is alone,
and otherwise the name with the position, counted from one. -/
def nameAmong (style : NameStyle) (base : String) (count index : Nat) : String :=
  if count = 1 then base else base ++ style.separator ++ Nat.repr (index + 1)

/-- Where the token at an index among so many goes. -/
def ofToken (style : NameStyle) (base : String) (count : Nat) (entry : String × Nat) : Assignment :=
  ⟨style.target (style.nameAmong base count entry.2), entry.1⟩

/-- Where the signature of the token at an index among so many goes. -/
def ofSignature (style : NameStyle) (base : String) (count : Nat) (entry : String × Nat) :
    Assignment :=
  ⟨style.target (style.nameAmong base count entry.2 ++ style.signatureEnding), entry.1⟩

/-- What is to be written of a token set under the names of one kind. -/
def documented (style : NameStyle) (minted : Minted) (base : String) : List Assignment :=
  let count := minted.tokens.length
  minted.tokens.zipIdx.map (style.ofToken base count) ++
    minted.signatures.zipIdx.map (style.ofSignature base count)

/-- Whether the ending of signatures cannot be part of a number. -/
def EndsApart (style : NameStyle) : Prop :=
  ∃ c ∈ style.signatureEnding.toList, c.isDigit = false

variable {style : NameStyle} {base : String} {count index other : Nat}

theorem eq_of_nameAmong_eq (hindex : index < count) (hother : other < count)
    (hname : style.nameAmong base count index = style.nameAmong base count other) :
    index = other := by
  unfold nameAmong at hname
  split at hname
  next hone => omega
  next => exact Nat.succ.inj (repr_injective (String.append_right_inj _ |>.1 hname))

/-- No token has the name of a signature. -/
theorem nameAmong_ne_append (hstyle : style.EndsApart) :
    style.nameAmong base count index ≠
      style.nameAmong base count other ++ style.signatureEnding := by
  obtain ⟨c, hc, hletter⟩ := hstyle
  intro hname
  have hchars := congrArg String.toList hname
  unfold nameAmong at hchars
  split at hchars
  · rw [String.toList_append, List.self_eq_append_right] at hchars
    exact List.not_mem_nil (hchars ▸ hc)
  · simp only [String.toList_append, List.append_assoc, List.append_cancel_left_eq] at hchars
    have hdigit := Text.isDigit_of_mem_repr (hchars ▸ List.mem_append_right _ hc)
    exact Bool.noConfusion (hletter.symm.trans hdigit)

theorem endsApart_header : header.EndsApart := ⟨'-', by decide, by decide⟩

theorem endsApart_environment : environment.EndsApart := ⟨'_', by decide, by decide⟩

/-- No two targets of one kind are the same. -/
theorem nodup_documented (hstyle : style.EndsApart) (htarget : Function.Injective style.target)
    {minted : Minted} (hshort : minted.signatures.length ≤ minted.tokens.length) :
    ((style.documented minted base).map Assignment.target).Nodup := by
  have htokens : (minted.tokens.zipIdx.map (style.ofToken base minted.tokens.length)).map
      Assignment.target = (List.range' 0 minted.tokens.length).map fun index ↦
        style.target (style.nameAmong base minted.tokens.length index) := by
    rw [← List.zipIdx_map_snd, List.map_map, List.map_map]
    rfl
  have hsignatures : (minted.signatures.zipIdx.map
      (style.ofSignature base minted.tokens.length)).map Assignment.target =
        (List.range' 0 minted.signatures.length).map fun index ↦ style.target
          (style.nameAmong base minted.tokens.length index ++ style.signatureEnding) := by
    rw [← List.zipIdx_map_snd, List.map_map, List.map_map]
    rfl
  rw [documented, List.map_append, htokens, hsignatures, List.nodup_append]
  refine ⟨?_, ?_, ?_⟩
  · refine List.Nodup.map_on (fun index hindex other hother hsame ↦ ?_) List.nodup_range'
    rw [List.mem_range'_1] at hindex hother
    exact eq_of_nameAmong_eq (by omega) (by omega) (htarget hsame)
  · refine List.Nodup.map_on (fun index hindex other hother hsame ↦ ?_) List.nodup_range'
    rw [List.mem_range'_1] at hindex hother
    exact eq_of_nameAmong_eq (by omega) (by omega)
      ((String.append_left_inj _).1 (htarget hsame))
  · intro first hfirst second hsecond hsame
    obtain ⟨index, -, rfl⟩ := List.mem_map.1 hfirst
    obtain ⟨other, -, rfl⟩ := List.mem_map.1 hsecond
    exact nameAmong_ne_append hstyle (htarget hsame)

theorem target_of_mem_documented {minted : Minted} {assignment : Assignment}
    (hmem : assignment ∈ style.documented minted base) :
    ∃ name, assignment.target = style.target name := by
  rcases List.mem_append.1 hmem with htoken | hsignature
  · obtain ⟨entry, -, rfl⟩ := List.mem_map.1 htoken
    exact ⟨_, rfl⟩
  · obtain ⟨entry, -, rfl⟩ := List.mem_map.1 hsignature
    exact ⟨_, rfl⟩

end NameStyle

/-- Picking what there is at each of at least as many positions picks everything. -/
theorem filterMap_range'_getElem? {α β : Type} (make : α × Nat → β) (items : List α)
    {start count : Nat} (hcount : items.length ≤ count) :
    ((List.range' start count).filterMap fun index ↦
        items[index - start]?.map fun item ↦ make (item, index)) =
      (items.zipIdx start).map make := by
  induction items generalizing start count with
  | nil => simp
  | cons first rest ih =>
    obtain ⟨count, rfl⟩ := Nat.exists_eq_succ_of_ne_zero
      (Nat.ne_of_gt (Nat.lt_of_lt_of_le (Nat.succ_pos _) hcount))
    rw [List.range'_succ, List.filterMap_cons, Nat.sub_self, List.zipIdx_cons, List.map_cons,
      ← ih (Nat.le_of_succ_le_succ hcount)]
    simp only [List.getElem?_cons_zero, Option.map_some, List.cons.injEq, true_and]
    refine List.filterMap_congr fun index hindex ↦ ?_
    obtain ⟨hlow, -⟩ := List.mem_range'_1.1 hindex
    rw [show index - start = (index - (start + 1)) + 1 by omega, List.getElem?_cons_succ]

namespace EmittedTokens

variable {emitted : EmittedTokens}

/-- The kinds of outputs that have a configured name, with this name. Headers are numbered as in
`Name-1` and signed as in `Name-Signature`, variables as in `NAME_1` and `NAME_SIG`. -/
def outputs (emitted : EmittedTokens) : List (NameStyle × String) :=
  (emitted.header.map fun base ↦ (⟨Target.header, "-", "-Signature"⟩, base)).toList ++
    (emitted.environment.map fun base ↦ (⟨Target.environment, "_", "_SIG"⟩, base)).toList

theorem outputs_eq : emitted.outputs =
    (emitted.header.map fun base ↦ (NameStyle.header, base)).toList ++
      (emitted.environment.map fun base ↦ (NameStyle.environment, base)).toList :=
  rfl

/-- What is to be written of a token set. -/
def documented (emitted : EmittedTokens) : List Assignment :=
  emitted.outputs.flatMap fun output ↦ output.1.documented emitted.served.minted output.2

theorem tokenName_position (style : NameStyle) (base : String) {index : Nat}
    (hindex : index < emitted.served.minted.tokens.length) :
    style.tokenName base (emitted.position index) =
      style.nameAmong base emitted.served.minted.tokens.length index := by
  unfold position NameStyle.nameAmong
  by_cases hone : emitted.served.minted.tokens.length = 1
  · simp [hone, NameStyle.tokenName]
  · rw [if_pos (by omega), if_neg hone]
    rfl

/-- The token at an index is written after its signature, if it has one. -/
theorem assignments_of_index (style : NameStyle) (base : String) {token : String} {index : Nat}
    (hindex : index < emitted.served.minted.tokens.length) :
    style.assignments (some base) (emitted.position index) token
        emitted.served.minted.signatures[index]? =
      (emitted.served.minted.signatures[index]?.map fun signature ↦
        style.ofSignature base emitted.served.minted.tokens.length (signature, index)).toList ++
        [style.ofToken base emitted.served.minted.tokens.length (token, index)] := by
  rw [NameStyle.assignments, tokenName_position style base hindex]
  rfl

/-- What is written under the names of one kind, in order. -/
def ofStyle (emitted : EmittedTokens) (style : NameStyle) (base : Option String) :
    List Assignment :=
  emitted.served.minted.tokens.zipIdx.flatMap fun entry ↦
    style.assignments base (emitted.position entry.2) entry.1
      emitted.served.minted.signatures[entry.2]?

theorem perm_ofStyle_some (style : NameStyle) (base : String)
    (hshort : emitted.served.minted.signatures.length ≤ emitted.served.minted.tokens.length) :
    (emitted.ofStyle style (some base)).Perm (style.documented emitted.served.minted base) := by
  have hentries : emitted.ofStyle style (some base) =
      emitted.served.minted.tokens.zipIdx.flatMap fun entry ↦
        (emitted.served.minted.signatures[entry.2]?.map fun signature ↦
          style.ofSignature base emitted.served.minted.tokens.length (signature, entry.2)).toList ++
          [style.ofToken base emitted.served.minted.tokens.length entry] :=
    List.flatMap_congr fun entry hentry ↦
      assignments_of_index style base (by simpa using (List.mem_zipIdx hentry).2.1)
  have hsigned : (emitted.served.minted.tokens.zipIdx.flatMap fun entry ↦
      (emitted.served.minted.signatures[entry.2]?.map fun signature ↦
        style.ofSignature base emitted.served.minted.tokens.length (signature, entry.2)).toList) =
      emitted.served.minted.signatures.zipIdx.map
        (style.ofSignature base emitted.served.minted.tokens.length) := by
    rw [← filterMap_range'_getElem? _ emitted.served.minted.signatures hshort,
      List.filterMap_eq_flatMap_toList, ← List.zipIdx_map_snd, List.flatMap_map]
    rfl
  rw [hentries]
  refine (List.flatMap_append_perm _ _ _).symm.trans ?_
  rw [hsigned, ← List.map_eq_flatMap]
  exact List.perm_append_comm

/-- What is written of a token set is what is to be written, in another order. -/
theorem perm_documented
    (hshort : emitted.served.minted.signatures.length ≤ emitted.served.minted.tokens.length) :
    emitted.assignments.Perm emitted.documented := by
  have hstyle : ∀ (style : NameStyle) (base : Option String),
      (emitted.ofStyle style base).Perm
        ((base.map fun base ↦ (style, base)).toList.flatMap fun output ↦
          output.1.documented emitted.served.minted output.2) := by
    intro style base
    cases base with
    | none => simp [ofStyle, NameStyle.assignments]
    | some base => simpa using perm_ofStyle_some style base hshort
  have hsplit : emitted.assignments.Perm (emitted.ofStyle .header emitted.header ++
      emitted.ofStyle .environment emitted.environment) :=
    (List.flatMap_append_perm _ _ _).symm
  rw [documented, outputs_eq, List.flatMap_append]
  exact hsplit.trans ((hstyle _ _).append (hstyle _ _))

/-- No two targets of a token set are the same. -/
theorem nodup_targets_documented
    (hshort : emitted.served.minted.signatures.length ≤ emitted.served.minted.tokens.length) :
    (emitted.documented.map Assignment.target).Nodup := by
  have hheader (base : String) : ((NameStyle.header.documented emitted.served.minted base).map
      Assignment.target).Nodup :=
    NameStyle.nodup_documented NameStyle.endsApart_header (fun _ _ h ↦ Target.header.inj h) hshort
  have henvironment (base : String) :
      ((NameStyle.environment.documented emitted.served.minted base).map
        Assignment.target).Nodup :=
    NameStyle.nodup_documented NameStyle.endsApart_environment
      (fun _ _ h ↦ Target.environment.inj h) hshort
  rw [documented, outputs_eq]
  cases emitted.header with
  | none =>
    cases emitted.environment with
    | none => exact List.nodup_nil
    | some other => simpa using henvironment other
  | some base =>
    cases emitted.environment with
    | none => simpa using hheader base
    | some other =>
      have happart := List.nodup_append.2 ⟨hheader base, henvironment other,
        fun first hfirst second hsecond hsame ↦ ?_⟩
      · simpa using happart
      · obtain ⟨_, hinFirst, rfl⟩ := List.mem_map.1 hfirst
        obtain ⟨_, hinSecond, rfl⟩ := List.mem_map.1 hsecond
        obtain ⟨_, hheader⟩ := NameStyle.target_of_mem_documented hinFirst
        obtain ⟨_, henvironment⟩ := NameStyle.target_of_mem_documented hinSecond
        exact Target.noConfusion (hheader.symm.trans (hsame.trans henvironment))

/-- The signature of a token is written, and before the token. -/
theorem sublist_assignments {output : NameStyle × String} (houtput : output ∈ emitted.outputs)
    {index : Nat} {token signature : String}
    (htoken : emitted.served.minted.tokens[index]? = some token)
    (hsignature : emitted.served.minted.signatures[index]? = some signature) :
    [output.1.ofSignature output.2 emitted.served.minted.tokens.length (signature, index),
      output.1.ofToken output.2 emitted.served.minted.tokens.length (token, index)].Sublist
        emitted.assignments := by
  have hentry : (token, index) ∈ emitted.served.minted.tokens.zipIdx :=
    List.mk_mem_zipIdx_iff_getElem?.2 htoken
  have hof (style : NameStyle) (base : String) :
      [style.ofSignature base emitted.served.minted.tokens.length (signature, index),
        style.ofToken base emitted.served.minted.tokens.length (token, index)] =
      style.assignments (some base) (emitted.position index) token
        emitted.served.minted.signatures[index]? := by
    rw [assignments_of_index style base (List.getElem?_eq_some_iff.1 htoken).1, hsignature]
    rfl
  refine List.Sublist.trans ?_ (List.sublist_flatten_of_mem (List.mem_map.2 ⟨_, hentry, rfl⟩))
  unfold tokenAssignments
  rw [outputs_eq] at houtput
  rcases List.mem_append.1 houtput with hheader | henvironment
  · obtain ⟨base, hbase, rfl⟩ : ∃ base, emitted.header = some base ∧
        (NameStyle.header, base) = output := by simpa using hheader
    rw [hof, hbase]
    exact List.sublist_append_left _ _
  · obtain ⟨base, hbase, rfl⟩ : ∃ base, emitted.environment = some base ∧
        (NameStyle.environment, base) = output := by simpa using henvironment
    rw [hof, hbase]
    exact List.sublist_append_right _ _

/-- What holds of the assignments of a token set that do not get in each other's way. -/
structure KeptApart (emitted : EmittedTokens) (assignments : List Assignment) : Prop where
  /-- No target is written to twice. -/
  nodup : (assignments.map Assignment.target).Nodup
  /-- Every token and every signature is written once under each kind of name, and nothing else
  is. -/
  complete : assignments.Perm emitted.documented
  /-- A signature is written before its token. -/
  signature_first : ∀ output ∈ emitted.outputs, ∀ (index : Nat) (token signature : String),
    emitted.served.minted.tokens[index]? = some token →
    emitted.served.minted.signatures[index]? = some signature →
      [output.1.ofSignature output.2 emitted.served.minted.tokens.length (signature, index),
        output.1.ofToken output.2 emitted.served.minted.tokens.length (token, index)].Sublist
          assignments
  /-- Afterwards every token and every signature can be read under its name, and nothing else. -/
  readable : ∀ (target : Target) (value : String),
    (Outputs.empty.assignAll assignments).get? target = some value ↔
      ⟨target, value⟩ ∈ emitted.documented

/-- The outputs of a token set never overwrite each other. -/
theorem outputs_kept_apart (emitted : EmittedTokens)
    (hshort : emitted.served.minted.signatures.length ≤ emitted.served.minted.tokens.length) :
    emitted.KeptApart (Emission.mk emitted []).assignments := by
  have hassignments : (Emission.mk emitted []).assignments = emitted.assignments :=
    List.append_nil _
  have hperm := perm_documented hshort
  have hnodup : (emitted.assignments.map Assignment.target).Nodup :=
    (hperm.map _).nodup_iff.2 (nodup_targets_documented hshort)
  rw [hassignments]
  exact {
    nodup := hnodup
    complete := hperm
    signature_first := fun output houtput index token signature ↦ sublist_assignments houtput
    readable := fun target value ↦
      (Outputs.get?_assignAll_empty_iff hnodup target value).trans hperm.mem_iff }

/-- Two signed tokens under a header whose name ends as the name of a signature does and a variable
whose name ends in a number. -/
def endingAlike : EmittedTokens :=
  ⟨"site", ⟨⟨["first", "second"], ["mark of first", "mark of second"], Duration.ofSeconds 1⟩,
    .generated⟩, some "X-Signature", some "TOKEN_1"⟩

theorem outputs_kept_apart_endingAlike :
    let outputs := Outputs.empty.assignAll (Emission.mk endingAlike []).assignments
    endingAlike.KeptApart (Emission.mk endingAlike []).assignments ∧
      outputs.environment? "TOKEN_1_2" = some "second" ∧
      outputs.environment? "TOKEN_1_1_SIG" = some "mark of first" ∧
      outputs.header? "X-Signature-2" = some "second" ∧
      outputs.header? "X-Signature-1-Signature" = some "mark of first" := by
  have hkept := outputs_kept_apart endingAlike (by decide)
  refine ⟨hkept, ?_, ?_, ?_, ?_⟩
  · exact (hkept.readable (.environment "TOKEN_1_2") "second").2 (by decide +kernel)
  · exact (hkept.readable (.environment "TOKEN_1_1_SIG") "mark of first").2 (by decide +kernel)
  · exact (hkept.readable (.header "X-Signature-2") "second").2 (by decide +kernel)
  · exact (hkept.readable (.header "X-Signature-1-Signature") "mark of first").2 (by decide +kernel)

end EmittedTokens

end TokenMint
