import TokenMint.Proofs.Regex.Search
import TokenMint.Scope.Pattern

/-!
# What reading keeps of the start of an expression

The text of an expression is read token by token. Letters become parts of their own
(`Reader.read_letters`). A repetition takes the last part of the group that is being read and no
other, so that the parts before it stay as they are, and so does the last part once another one
stands behind it (`Reader.Keeps.of_step`, `Reader.Keeps.read`). A letter of which every repetition
behind it asks for at least one copy is required by what is made of it
(`Reader.exists_of_demandsCopy`).

If there is no bar outside of groups, a search goes through the parts that were read one after the
other, and one that finds anything has a position left at the end (`runAll_ne_zero_of_found`).
-/

set_option autoImplicit false
set_option relaxedAutoImplicit false

namespace TokenMint.Regex

variable {properties : Properties}

/-! ### Letters -/

/-- The part that a letter becomes. -/
def letterPart (c : Char) : Part :=
  ⟨.one (CharSet.single c), 0, true⟩

/-- The part that the mark of the start of the text becomes. -/
def startPart : Part :=
  ⟨.look .textStart, 0, true⟩

theorem readToken_letter {c : Char} (hplain : c ∉ Pattern.special) (rest : List Char) :
    readToken properties .none (c :: rest) =
      .ok (some (.part (.one (CharSet.single c)) 0, rest)) := by
  simp only [Pattern.special, List.mem_cons, List.not_mem_nil, or_false, not_or] at hplain
  unfold readToken Flags.skip
  simp only [Flags.none, Bool.false_eq_true, if_false]
  split <;> simp_all [letter, Flags.cased, pure, Except.pure]

namespace Reader

/-- The reader with more parts in the group being read, the last one first. -/
def extended (reader : Reader) (parts : List Part) : Reader :=
  reader.within { reader.current with parts := parts ++ reader.current.parts }

/-- What reading on can come to. -/
theorem read_cases {length : Nat} {reader final : Reader} {text : List Char}
    (hread : reader.read properties (length + 1) text = .ok final) :
    final = reader ∨ ∃ token rest next,
      readToken properties reader.current.flags text = .ok (some (token, rest)) ∧
        reader.step token = .ok next ∧ next.read properties length rest = .ok final := by
  rw [read] at hread
  cases htoken : readToken properties reader.current.flags text with
  | error fault => simp [htoken, bind, Except.bind] at hread
  | ok found =>
    cases found with
    | none =>
      simp only [htoken, bind, Except.bind, pure, Except.pure, Except.ok.injEq] at hread
      exact .inl hread.symm
    | some entry =>
      obtain ⟨token, rest⟩ := entry
      cases hstep : reader.step token with
      | error fault => simp [htoken, hstep, bind, Except.bind] at hread
      | ok next =>
        exact .inr ⟨token, rest, next, rfl, hstep, by
          simpa [htoken, hstep, bind, Except.bind] using hread⟩

theorem read_of_token {length : Nat} {reader next : Reader} {text rest : List Char} {token : Token}
    (htoken : readToken properties reader.current.flags text = .ok (some (token, rest)))
    (hstep : reader.step token = .ok next) :
    reader.read properties (length + 1) text = next.read properties length rest := by
  rw [read, htoken]
  simp only [bind, Except.bind, hstep]

/-- Letters are read one by one. -/
theorem read_letters {letters : List Char} (hletters : ∀ c ∈ letters, c ∉ Pattern.special)
    (reader : Reader) (hflags : reader.current.flags = .none) (length : Nat) (rest : List Char) :
    reader.read properties (letters.length + length) (letters ++ rest) =
      (reader.extended (letters.map letterPart).reverse).read properties length rest := by
  induction letters generalizing reader with
  | nil => rw [List.length_nil, Nat.zero_add]; rfl
  | cons c others ih =>
    have htoken : readToken properties reader.current.flags (c :: (others ++ rest)) =
        .ok (some (.part (.one (CharSet.single c)) 0, others ++ rest)) := by
      rw [hflags]
      exact readToken_letter (hletters c List.mem_cons_self) _
    have hothers : ∀ other ∈ others, other ∉ Pattern.special :=
      fun other hother ↦ hletters other (List.mem_cons_of_mem c hother)
    rw [List.length_cons, Nat.add_right_comm, List.cons_append, read_of_token htoken rfl]
    refine (ih hothers (reader.within (reader.current.push (letterPart c))) hflags).trans ?_
    simp [extended, within, Frame.push]

/-- The parts that the mark of the start and letters become, the last one first. -/
def startParts (letters : List Char) : List Part :=
  (letters.map letterPart).reverse ++ [startPart]

theorem startParts_concat (letters : List Char) (c : Char) :
    startParts (letters ++ [c]) = letterPart c :: startParts letters := by
  simp [startParts]

theorem reverse_startParts (letters : List Char) :
    (startParts letters).reverse.map Part.expression =
      .look .textStart :: letters.map fun c ↦ .one (CharSet.single c) := by
  simp [startParts, startPart, letterPart, Function.comp_def]

/-- The reader that has read the mark of the start and letters. -/
def afterLetters (letters : List Char) : Reader :=
  ⟨{ Frame.start .none false with parts := startParts letters }, [], []⟩

theorem read_anchored {letters : List Char} (hletters : ∀ c ∈ letters, c ∉ Pattern.special)
    (rest : List Char) :
    start.read properties ('^' :: (letters ++ rest)).length ('^' :: (letters ++ rest)) =
      (afterLetters letters).read properties rest.length rest := by
  rw [List.length_cons, List.length_append, read_of_token rfl rfl, read_letters hletters _ rfl]
  rfl

/-! ### Parts that stay -/

/-- The group around all others: the whole expression. -/
def bottom (reader : Reader) : Frame :=
  reader.outer.getLast?.getD reader.current

/-- Whether the whole expression, as long as it has one alternative, begins with the given parts,
the last one first, and nothing can be done to these any more. -/
def Keeps (base : List Part) (reader : Reader) : Prop :=
  reader.bottom.alternatives = [] →
    ∃ newer, reader.bottom.parts = newer ++ base ∧ (reader.outer = [] → newer ≠ [])

variable {base : List Part} {reader next final : Reader} {token : Token}

theorem bottom_cons (current frame : Frame) (outer : List Frame) (names : List (List Char)) :
    (⟨current, frame :: outer, names⟩ : Reader).bottom =
      (⟨frame, outer, names⟩ : Reader).bottom := by
  rw [bottom, List.getLast?_cons]
  rfl

/-- A reader inside a group leaves the whole expression as it is. -/
theorem Keeps.of_bottom_eq
    (hbase : reader.bottom.alternatives = [] → ∃ newer, reader.bottom.parts = newer ++ base)
    (hbottom : next.bottom = reader.bottom) (houter : next.outer ≠ []) : next.Keeps base := by
  intro hsingle
  rw [hbottom] at hsingle ⊢
  obtain ⟨newer, hparts⟩ := hbase hsingle
  exact ⟨newer, hparts, fun hnone ↦ absurd hnone houter⟩

/-- A part that is added to the whole expression stands behind those at its start. -/
theorem Keeps.of_push
    (hbase : reader.bottom.alternatives = [] → ∃ newer, reader.bottom.parts = newer ++ base)
    (halternatives : next.bottom.alternatives = reader.bottom.alternatives) {part : Part}
    (hparts : next.bottom.parts = part :: reader.bottom.parts) : next.Keeps base := by
  intro hsingle
  obtain ⟨newer, hbefore⟩ := hbase (halternatives ▸ hsingle)
  refine ⟨part :: newer, ?_, fun _ ↦ List.cons_ne_nil _ _⟩
  rw [hparts, hbefore, List.cons_append]

/-- A token leaves the parts at the start alone, unless it is a repetition that directly follows
them. -/
theorem Keeps.of_step
    (hbase : reader.bottom.alternatives = [] → ∃ newer, reader.bottom.parts = newer ++ base ∧
      (reader.outer = [] → newer = [] → ∀ low high, token ≠ .repetition low high))
    (hstep : reader.step token = .ok next) : next.Keeps base := by
  have hstart := fun hsingle ↦ (hbase hsingle).imp fun _ hnewer ↦ hnewer.1
  obtain ⟨current, outer, names⟩ := reader
  cases token with
  | part expression depth =>
    obtain rfl := Except.ok.inj hstep
    cases outer with
    | nil => exact Keeps.of_push hstart rfl rfl
    | cons frame outer => exact Keeps.of_bottom_eq hstart (by simp [within, bottom_cons]) nofun
  | repetition low high =>
    rw [step] at hstep
    split at hstep
    next => nomatch hstep
    next part earlier hparts =>
      split at hstep
      · obtain rfl := Except.ok.inj hstep
        cases outer with
        | nil =>
          -- The repetition takes a part that stands behind those at the start.
          intro hsingle
          obtain ⟨newer, hnewer, hlast⟩ := hbase hsingle
          cases newer with
          | nil => exact absurd rfl (hlast rfl rfl low high)
          | cons newest newer =>
            rw [show earlier = newer ++ base from (List.cons.inj (hparts.symm.trans hnewer)).2]
            exact ⟨_ :: newer, rfl, fun _ ↦ List.cons_ne_nil _ _⟩
        | cons frame outer =>
          exact Keeps.of_bottom_eq hstart (by simp [within, bottom_cons]) nofun
      · nomatch hstep
  | groupOpen flags records name =>
    rw [step] at hstep
    split at hstep
    · nomatch hstep
    · obtain rfl := Except.ok.inj hstep
      exact Keeps.of_bottom_eq hstart (bottom_cons _ _ _ _) nofun
  | groupClose =>
    cases outer with
    | nil => nomatch hstep
    | cons frame outer =>
      obtain rfl := Except.ok.inj hstep
      cases outer with
      | nil => exact Keeps.of_push hstart rfl rfl
      | cons other outer => exact Keeps.of_bottom_eq hstart (by simp [bottom_cons]) nofun
  | bar =>
    obtain rfl := Except.ok.inj hstep
    cases outer with
    | nil => exact fun hsingle ↦ nomatch hsingle
    | cons frame outer => exact Keeps.of_bottom_eq hstart (by simp [within, bottom_cons]) nofun
  | setFlags flags =>
    obtain rfl := Except.ok.inj hstep
    cases outer with
    | nil => exact Keeps.of_push hstart rfl rfl
    | cons frame outer => exact Keeps.of_bottom_eq hstart (by simp [within, bottom_cons]) nofun

theorem Keeps.read (hkeeps : reader.Keeps base) {length : Nat} {text : List Char}
    (hread : reader.read properties length text = .ok final) : final.Keeps base := by
  induction length generalizing reader text with
  | zero => exact Except.ok.inj hread ▸ hkeeps
  | succ length ih =>
    rcases read_cases hread with rfl | ⟨token, rest, next, -, hstep, hnext⟩
    · exact hkeeps
    · refine ih (Keeps.of_step (fun hsingle ↦ ?_) hstep) hnext
      obtain ⟨newer, hparts, hnewer⟩ := hkeeps hsingle
      exact ⟨newer, hparts, fun houter hnone ↦ absurd hnone (hnewer houter)⟩

/-- What has been read before a letter stays. -/
theorem keeps_afterLetters (letters : List Char) (c : Char) :
    (afterLetters (letters ++ [c])).Keeps (startParts letters) :=
  fun _ ↦ ⟨[letterPart c], startParts_concat letters c, fun _ ↦ List.cons_ne_nil _ _⟩

/-! ### Repetitions of a letter -/

/-- Whether all repetitions that a text begins with ask for at least one copy. -/
def demandsCopy (properties : Properties) : (length : Nat) → List Char → Bool
  | 0, _ => true
  | length + 1, text =>
    match readToken properties .none text with
    | .ok (some (.repetition low _, rest)) => 0 < low && demandsCopy properties length rest
    | _ => true

/-- What repetitions that ask for at least one copy make of a part requires what the part requires,
and it stays at its place. -/
theorem exists_of_demandsCopy {searched : List Char} {c : Char} {part : Part}
    (hrequires : Requires searched c part.expression) {current : Frame}
    (hflags : current.flags = .none) (hparts : current.parts = part :: base)
    {names : List (List Char)} {length : Nat} {text : List Char}
    (hdemands : demandsCopy properties length text = true)
    (hread : (⟨current, [], names⟩ : Reader).read properties length text = .ok final)
    (hsingle : final.bottom.alternatives = []) :
    ∃ newer made, final.bottom.parts = newer ++ made :: base ∧
      Requires searched c made.expression := by
  induction length generalizing current part text with
  | zero =>
    obtain rfl := Except.ok.inj hread
    exact ⟨[], part, hparts, hrequires⟩
  | succ length ih =>
    rcases read_cases hread with rfl | ⟨token, rest, next, htoken, hstep, hnext⟩
    · exact ⟨[], part, hparts, hrequires⟩
    · rw [hflags] at htoken
      by_cases hrepetition : ∃ low high, token = .repetition low high
      · obtain ⟨low, high, rfl⟩ := hrepetition
        simp only [demandsCopy, htoken, Bool.and_eq_true, decide_eq_true_eq] at hdemands
        simp only [step, hparts] at hstep
        split at hstep
        · obtain rfl := Except.ok.inj hstep
          let copies : Part := ⟨part.expression.repetition low high, part.depth + 1, true⟩
          have hcopied : ({ current with parts := copies :: base } : Frame).flags = .none := hflags
          exact ih (hrequires.repetition hdemands.1 high) hcopied rfl hdemands.2 hnext
        · nomatch hstep
      · -- From here on another part stands behind what was made of the letter.
        have hkeeps : next.Keeps (part :: base) := by
          refine Keeps.of_step ?_ hstep
          exact fun _ ↦ ⟨[], hparts, fun _ _ low high hsame ↦ hrepetition ⟨low, high, hsame⟩⟩
        obtain ⟨newer, hnewer, -⟩ := hkeeps.read hnext hsingle
        exact ⟨newer, part, hnewer, hrequires⟩

end Reader

/-! ### Expressions without a bar -/

/-- What a text is read to. -/
theorem exists_reader_of_ofText {source : List Char} {expression : Expression}
    (hread : ofText properties source = .ok expression) :
    ∃ final, Reader.start.read properties source.length source = .ok final ∧
      final.outer = [] ∧ expression = final.current.content.expression := by
  rw [ofText] at hread
  cases hfinal : Reader.start.read properties source.length source with
  | error fault => simp [hfinal, bind, Except.bind] at hread
  | ok final =>
    simp only [hfinal, bind, Except.bind] at hread
    split at hread
    · nomatch hread
    next houter =>
      split at hread
      · nomatch hread
      · split at hread
        · obtain rfl := Except.ok.inj hread
          exact ⟨final, rfl, by simpa using houter, rfl⟩
        · nomatch hread

/-- Whether an expression has no bar outside of groups. -/
def isSingle (properties : Properties) (source : List Char) : Bool :=
  match Reader.start.read properties source.length source with
  | .ok final => final.bottom.alternatives.isEmpty
  | .error _ => false

theorem run_join_sequence {searched : List Char} (parts : List Part) (places : Nat) :
    (fit searched (Part.join Expression.sequence parts).expression).run places =
      runAll searched (parts.map Part.expression) places := by
  match parts with
  | [] => rfl
  | [part] => rfl
  | first :: second :: rest => exact run_sequence _ places

/-- A search for an expression without a bar goes through its parts, one after the other. -/
theorem runAll_ne_zero_of_found {source searched : List Char} {expression : Expression}
    (hread : ofText properties source = .ok expression)
    (hsingle : isSingle properties source = true) (hfound : found expression searched = true) :
    ∃ final, Reader.start.read properties source.length source = .ok final ∧
      final.bottom.alternatives = [] ∧
      ∃ places, runAll searched (final.bottom.parts.reverse.map Part.expression) places ≠ 0 := by
  obtain ⟨final, hfinal, houter, rfl⟩ := exists_reader_of_ofText hread
  have hbottom : final.bottom = final.current := by rw [Reader.bottom, houter]; rfl
  rw [isSingle, hfinal] at hsingle
  have halternatives : final.current.alternatives = [] := by
    rw [← hbottom]
    exact List.isEmpty_iff.1 hsingle
  refine ⟨final, hfinal, hbottom ▸ halternatives, position (searched.length + 1) - 1, ?_⟩
  rw [← run_join_sequence, hbottom]
  have hcontent : final.current.content = final.current.alternative := by
    rw [Frame.content, halternatives]
    rfl
  rw [found, hcontent] at hfound
  simpa [Frame.alternative] using hfound

end TokenMint.Regex
