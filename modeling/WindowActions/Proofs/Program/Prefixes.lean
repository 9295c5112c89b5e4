import WindowActions.Proofs.Program.Decides
import WindowActions.Proofs.Program.Grammar

/-!
# What readers of programs decide

Every reader of programs decides about its tokens in the sense of `Decides`, where what it accepts
stands there by any reading of the grammar. There is one lemma for each reader, along the way in
which it is put together from others.

Three readers are parts of those that run: what is behind a test, and a conditional up to its
closing bracket and from there on.
-/

namespace WindowActions

section Parts

variable (stop : Position) (deeper : Option (Reader Statement))

/-- Reads how a test is joined to the tests behind it, and these, if there are any. -/
def readFurther : OptionalReader (Joint × List Test)
  | ⟨.mark .comma, _⟩ :: rest =>
    (readTests stop deeper rest).map fun tests =>
      (tests.map (.and, ·)).widen (Nat.le_add_right _ 2)
  | ⟨.mark .pipe, _⟩ :: rest =>
    (readTests stop deeper rest).map fun tests =>
      (tests.map (.or, ·)).widen (Nat.le_add_right _ 2)
  | tokens => .ok ⟨(.or, []), tokens, Nat.lt_add_one _⟩

/-- Reads a conditional from behind its opening bracket to its closing bracket. -/
def readGuard : Reader (Option (List Test)) := fun tokens => do
  let chain ← readChain stop deeper tokens
  let bracket ← readRightBracket stop chain.rest
  return ⟨chain.value, bracket.rest, by
    have := chain.shorter
    have := bracket.shorter
    omega⟩

/-- Reads a conditional from behind its closing bracket. -/
def readBranches : Reader (Statement × Option Statement) := fun tokens => do
  let accepted ← withDeeper stop deeper tokens (· tokens)
  let otherwise ← readOtherwise stop deeper accepted.rest
  return ⟨(accepted.value, otherwise.value), otherwise.rest, by
    have := accepted.shorter
    have := otherwise.shorter
    omega⟩

end Parts

section Stands

variable (fits : Statement → Prop)

/-- How the statements of a list end: in a nested list at the brace, in any other anywhere, for the
tokens behind them may yet come. -/
inductive BodyEnd : Bool → List Token → List Token → Prop
  | closed {pos : Position} {rest : List Token} :
      BodyEnd true (⟨.mark .rightBrace, pos⟩ :: rest) rest
  | anywhere {rest : List Token} : BodyEnd false rest rest

theorem BodyEnd.exists_nil (nested : Bool) : ∃ tokens, BodyEnd nested tokens [] := by
  cases nested with
  | true => exact ⟨[⟨.mark .rightBrace, .start⟩], .closed⟩
  | false => exact ⟨[], .anywhere⟩

/-- A list, with its closing brace if it is nested. -/
def ListAt (nested : Bool) (body : List Statement) (tokens rest : List Token) : Prop :=
  ∃ behind, BodyAt fits body tokens behind ∧ BodyEnd nested behind rest

variable {fits} in
theorem not_listAt_nil {body : List Statement} : ¬ListAt fits true body [] [] := by
  rintro ⟨behind, hbody, ⟨⟩⟩
  cases hbody with
  | cons one more => cases one

/-- The tests behind a test, with the joint that they follow. -/
inductive FurtherAt : Joint × List Test → List Token → List Token → Prop
  | none {rest : List Token} : FurtherAt (.or, []) rest rest
  | comma {tests : List Test} {pos : Position} {tokens rest : List Token}
      (more : TestsAt fits tests tokens rest) :
      FurtherAt (.and, tests) (⟨.mark .comma, pos⟩ :: tokens) rest
  | pipe {tests : List Test} {pos : Position} {tokens rest : List Token}
      (more : TestsAt fits tests tokens rest) :
      FurtherAt (.or, tests) (⟨.mark .pipe, pos⟩ :: tokens) rest

/-- What is between the brackets of a conditional, with the closing one. -/
def GuardAt (test : Option (List Test)) (tokens rest : List Token) : Prop :=
  ∃ pos, ChainAt fits test tokens (⟨.mark .rightBracket, pos⟩ :: rest)

/-- A second branch, if there is one. -/
inductive OtherwiseAt : Option Statement → List Token → List Token → Prop
  | none {rest : List Token} : OtherwiseAt none rest rest
  | some {s : Statement} {pos : Position} {tokens rest : List Token}
      (second : StatementAt fits s tokens rest) :
      OtherwiseAt (some s) (⟨.mark .pipe, pos⟩ :: tokens) rest

/-- The branches of a conditional. -/
def BranchesAt (branches : Statement × Option Statement) (tokens rest : List Token) : Prop :=
  ∃ middle, StatementAt fits branches.1 tokens middle ∧ OtherwiseAt fits branches.2 middle rest

variable {fits} {test : Option (List Test)} {key : String} {pos : Position}
  {tokens middle rest : List Token}

theorem BodyAt.separator {body : List Statement} {kind : TokenKind}
    (more : BodyAt fits body tokens rest) (h : kind = .mark .newline ∨ kind = .mark .semicolon) :
    BodyAt fits body (⟨kind, pos⟩ :: tokens) rest := by
  rcases h with rfl | rfl
  · exact .newline more
  · exact .semicolon more

theorem FurtherAt.tests {operand : Option Operand} {further : Joint × List Test}
    (h : FurtherAt fits further middle rest) (given : TestOperandAt fits operand tokens middle) :
    TestsAt fits (⟨key, operand, further.1⟩ :: further.2) (⟨.word key, pos⟩ :: tokens) rest := by
  cases h with
  | none => exact .last given
  | comma more => exact .comma given more
  | pipe more => exact .pipe given more

theorem BranchesAt.conditional {branches : Statement × Option Statement} (hfits : ∀ s, fits s)
    (h : BranchesAt fits branches middle rest) (hguard : GuardAt fits test tokens middle) :
    StatementAt fits (.conditional test branches.1 branches.2) (⟨.mark .leftBracket, pos⟩ :: tokens)
      rest := by
  obtain ⟨accepted, otherwise⟩ := branches
  obtain ⟨behind, first, hotherwise⟩ := h
  obtain ⟨pos', chain⟩ := hguard
  cases hotherwise with
  | none => exact .when chain first
  | some second => exact .whenElse chain first (hfits _) second

end Stands

section RunsAs

variable {stop : Position} {readOne : Reader Statement} {deeper : Option (Reader Statement)}

/-- A line end or a `;` in a list is passed over. -/
theorem readList_separator {nested : Bool} {kind : TokenKind} {pos : Position}
    {tokens : List Token} (h : kind = .mark .newline ∨ kind = .mark .semicolon) :
    readList stop readOne nested (⟨kind, pos⟩ :: tokens) =
      (readList stop readOne nested tokens).map (·.widen (Nat.le_succ _)) := by
  rcases h with rfl | rfl <;> rw [readList]

theorem readList_runsAs {nested : Bool} {kind : TokenKind} {pos : Position}
    (hnewline : kind ≠ .mark .newline) (hsemicolon : kind ≠ .mark .semicolon)
    (hend : ¬(nested = true ∧ kind = .mark .rightBrace)) (tokens : List Token) :
    RunsAs (readList stop readOne nested) readOne (readList stop readOne nested) (· :: ·)
      (⟨kind, pos⟩ :: tokens) where
  yields s middle body rest hone hmore := by
    obtain ⟨hshorter, hone⟩ := hone
    rw [readList_cons hnewline hsemicolon, if_neg hend]
    simp only [hone, yields_map_widen, yields_hearing]
    exact ⟨body, hmore, rfl⟩
  fails_first e h := by
    obtain ⟨heard, h⟩ := h
    rw [readList_cons hnewline hsemicolon, if_neg hend, h]
    exact ⟨heard, rfl⟩
  fails_second s middle e hone h := by
    obtain ⟨hshorter, hone⟩ := hone
    rw [readList_cons hnewline hsemicolon, if_neg hend]
    simp only [hone, fails_map, fails_hearing]
    exact h

theorem readOptions_runsAs (name : String) (pos pos' : Position) (tokens : List Token) :
    RunsAs
      (fun tokens => readOptions stop deeper (⟨.word name, pos⟩ :: ⟨.mark .colon, pos'⟩ :: tokens))
      (readOperand stop deeper) (readOptions stop deeper)
      (fun operand more => (name, operand) :: more) tokens where
  yields _ _ _ _ hone hmore := yields_readOptions_cons hone hmore
  fails_first e h := by
    obtain ⟨heard, h⟩ := h
    rw [readOptions]
    simp only [h]
    exact ⟨heard, rfl⟩
  fails_second operand middle e hone h := by
    obtain ⟨hshorter, hone⟩ := hone
    rw [readOptions]
    simp only [hone, fails_map, fails_hearing]
    exact h

theorem readTests_runsAs (key : String) (pos : Position) (tokens : List Token) :
    RunsAs (fun tokens => readTests stop deeper (⟨.word key, pos⟩ :: tokens))
      (readTestOperand stop deeper) (readFurther stop deeper)
      (fun operand further => ⟨key, operand, further.1⟩ :: further.2) tokens where
  yields operand middle further rest hgiven hmore := by
    unfold readFurther at hmore
    split at hmore
    next pos' behind =>
      obtain ⟨tests, htests, rfl⟩ := yields_map_widen.1 hmore
      exact yields_readTests_comma hgiven htests
    next pos' behind =>
      obtain ⟨tests, htests, rfl⟩ := yields_map_widen.1 hmore
      exact yields_readTests_pipe hgiven htests
    next hcomma hpipe =>
      obtain ⟨hshorter, hgiven⟩ := hgiven
      obtain ⟨rfl, rfl⟩ := yields_ok.1 hmore
      rw [readTests]
      simp only [hgiven]
      exact ⟨_, rfl⟩
  fails_first e h := by
    obtain ⟨heard, h⟩ := h
    rw [readTests]
    simp only [h]
    exact ⟨heard, rfl⟩
  fails_second operand middle e hgiven h := by
    obtain ⟨hshorter, hgiven⟩ := hgiven
    unfold readFurther at h
    split at h
    next pos' behind =>
      rw [readTests]
      simpa only [hgiven, fails_map, fails_hearing] using h
    next pos' behind =>
      rw [readTests]
      simpa only [hgiven, fails_map, fails_hearing] using h
    next => exact absurd h not_fails_ok

theorem readGuard_runsAs (tokens : List Token) :
    RunsAs (readConditional stop deeper) (readGuard stop deeper) (readBranches stop deeper)
      (fun test branches => .conditional test branches.1 branches.2) tokens where
  yields test middle branches rest hguard hbranches := by
    obtain ⟨_, bracket, _, hchain, hguard⟩ := yields_bind.1 hguard
    obtain ⟨⟨⟩, behind, _, hbracket, hguard⟩ := yields_bind.1 hguard
    obtain ⟨accepted, behind', _, hfirst, hbranches⟩ := yields_bind.1 hbranches
    obtain ⟨otherwise, rest', _, hsecond, hbranches⟩ := yields_bind.1 hbranches
    obtain ⟨pos, rfl⟩ := yields_readRightBracket hbracket
    obtain ⟨readOne, hdeeper, hfirst⟩ := yields_withDeeper.1 hfirst
    obtain ⟨rfl, rfl⟩ := yields_ok.1 hguard
    obtain ⟨rfl, rfl⟩ := yields_ok.1 hbranches
    exact yields_readConditional.2
      ⟨_, pos, behind, readOne, accepted, behind', otherwise, rfl, hchain, hdeeper, hfirst, hsecond⟩
  fails_first e h := by
    rcases fails_bind.1 h with hchain | ⟨chain, hchain, h⟩
    · exact fails_bind.2 (.inl hchain)
    refine fails_bind.2 (.inr ⟨chain, hchain, fails_bind.2 (.inl (fails_hearing.2 ?_))⟩)
    rcases fails_bind.1 h with hbracket | ⟨bracket, -, h⟩
    · exact hbracket
    · exact absurd h not_fails_ok
  fails_second test middle e hguard h := by
    obtain ⟨_, bracket, _, hchain, hguard⟩ := yields_bind.1 hguard
    obtain ⟨⟨⟩, behind, _, hbracket, hguard⟩ := yields_bind.1 hguard
    obtain ⟨rfl, rfl⟩ := yields_ok.1 hguard
    refine hchain.bind_fails fun _ => (yields_hearing.2 hbracket).bind_fails fun _ => ?_
    rcases fails_bind.1 h with hfirst | ⟨accepted, hfirst, h⟩
    · exact fails_bind.2 (.inl (fails_hearing.2 hfirst))
    have hfirst' : Yields (withDeeper stop deeper behind (· behind)) accepted.value accepted.rest :=
      ⟨accepted.shorter, hfirst⟩
    refine (yields_hearing.2 hfirst').bind_fails fun _ => fails_bind.2 (.inl (fails_hearing.2 ?_))
    rcases fails_bind.1 h with hsecond | ⟨otherwise, -, h⟩
    · exact hsecond
    · exact absurd h not_fails_ok

theorem readBranches_runsAs (readOne : Reader Statement) (tokens : List Token) :
    RunsAs (readBranches stop (some readOne)) readOne (readOtherwise stop (some readOne)) (·, ·)
      tokens where
  yields accepted middle otherwise rest hfirst hsecond := by
    obtain ⟨hmiddle, hfirst⟩ := hfirst
    obtain ⟨hrest, hsecond⟩ := hsecond
    exact yields_bind.2 ⟨accepted, middle, hmiddle, ⟨_, hfirst⟩,
      yields_bind.2 ⟨otherwise, rest, hrest, ⟨_, hsecond⟩, yields_ok.2 ⟨rfl, rfl⟩⟩⟩
  fails_first e h := fails_bind.2 (.inl h)
  fails_second accepted middle e hfirst h := hfirst.bind_fails fun _ => fails_bind.2 (.inl h)

theorem fails_readChain {tokens : List Token} {e : SourceError}
    (h : startsWith .rightBracket tokens = false) :
    Fails (readChain stop deeper tokens) e ↔ Fails (readTests stop deeper tokens) e := by
  unfold readChain
  split
  next pos rest => cases h
  next => exact fails_map

/-- A chain that takes no token is an empty one. -/
theorem yields_readChain_self {tokens : List Token} {test : Option (List Test)}
    (h : Yields (readChain stop deeper tokens) test tokens) :
    startsWith .rightBracket tokens ≠ false := by
  intro hbracket
  unfold readChain at h
  split at h
  next pos rest => cases hbracket
  next =>
    obtain ⟨tests, ⟨hshorter, -⟩, -⟩ := yields_map_widen.1 h
    exact absurd hshorter (Nat.lt_irrefl _)

theorem fails_readRightBracket {tokens : List Token}
    (h : startsWith .rightBracket tokens = false) :
    Fails (readRightBracket stop tokens) (mismatch stop .rightBracket tokens) := by
  unfold readRightBracket
  split
  next pos rest => cases h
  next => exact fails_unexpected

end RunsAs

section Decides

variable {fits : Statement → Prop} {stop : Position} {readOne : Reader Statement}
  {deeper : Option (Reader Statement)}

theorem readList_decides (hone : ∀ tokens, Decides true stop readOne (StatementAt fits) tokens)
    (nested : Bool) (tokens : List Token) :
    Decides (!nested) stop (readList stop readOne nested) (ListAt fits nested) tokens := by
  obtain ⟨tail, htail⟩ := BodyEnd.exists_nil nested
  match tokens with
  | [] =>
      cases nested with
      | true =>
          refine .unexpected_nil .rightBrace ⟨[], tail, tail, .nil, htail⟩ ?_
          rw [readList]
          rfl
      | false =>
          refine .here [] (fun rest => ⟨rest, .nil, .anywhere⟩) fun tokens' h => ?_
          rw [List.head?_eq_none_iff.1 h.head.symm, readList]
          exact ⟨_, rfl⟩
  | ⟨kind, pos⟩ :: tokens =>
      by_cases hseparator : kind = .mark .newline ∨ kind = .mark .semicolon
      · refine .cons ((readList_decides hone nested tokens).map id ?_ ?_ ?_)
        · intro tokens' _ body rest h
          rw [readList_separator hseparator]
          exact yields_widen.2 h
        · intro tokens' _ e h
          rw [readList_separator hseparator]
          exact fails_map.2 h
        · rintro body tokens rest ⟨behind, hbody, hend⟩
          exact ⟨behind, hbody.separator hseparator, hend⟩
      obtain ⟨hnewline, hsemicolon⟩ := not_or.1 hseparator
      by_cases hend : nested = true ∧ kind = .mark .rightBrace
      · obtain ⟨rfl, rfl⟩ := hend
        refine .cons (.here [] (fun rest => ⟨_, .nil, .closed⟩) fun tokens' _ => ?_)
        rw [readList_cons hnewline hsemicolon, if_pos ⟨rfl, rfl⟩]
        exact ⟨_, rfl⟩
      · have hruns : ∀ tokens', (⟨kind, pos⟩ :: tokens).head? = tokens'.head? →
            RunsAs (readList stop readOne nested) readOne (readList stop readOne nested) (· :: ·)
              tokens' := by
          intro tokens' hhead
          obtain ⟨rest, rfl⟩ := List.head?_eq_some_iff.1 hhead.symm
          exact readList_runsAs hnewline hsemicolon hend rest
        refine .andThen hruns ?_ (hone _)
          (fun s front rest _ hs => readList_decides hone nested rest) ?_ ?_
        -- The list behind the statement can take nothing only if it has no brace to take.
        · rintro body hbody -
          cases nested with
          | true => exact absurd hbody not_listAt_nil
          | false => rfl
        · rintro s body tokens middle rest hs ⟨behind, hbody, hend⟩
          exact ⟨behind, .cons hs hbody, hend⟩
        · intro s tokens hs
          exact ⟨[s], tail, tail, .cons (hs.append tail) .nil, htail⟩
termination_by tokens.length
decreasing_by
  · exact Nat.lt_succ_self _
  · obtain ⟨hshorter, -⟩ := hs
    exact hshorter

/-- The readers one level further in, if there are any, decide about all tokens. -/
def DeeperDecides (fits : Statement → Prop) (stop : Position)
    (deeper : Option (Reader Statement)) : Prop :=
  ∀ readOne, deeper = some readOne → ∀ tokens, Decides true stop readOne (StatementAt fits) tokens

variable (hdeeper : DeeperDecides fits stop deeper)

include hdeeper

/-- A list between braces, from behind the opening one. -/
theorem readNested_decides {α : Type} {g : List Statement → α}
    {stands : α → List Token → List Token → Prop}
    (hstands : ∀ body tokens rest pos, BodyAt fits body tokens (⟨.mark .rightBrace, pos⟩ :: rest) →
      stands (g body) tokens rest) (tokens : List Token) :
    Decides false stop
      (fun tokens => withDeeper stop deeper tokens fun readOne =>
        (readList stop readOne true tokens).map (·.map g)) stands tokens := by
  cases deeper with
  | none => exact .tooDeep _ rfl ⟨[], rfl⟩
  | some readOne =>
      refine (readList_decides (hdeeper readOne rfl) true tokens).map g ?_ ?_ ?_
      · exact fun tokens' _ body rest h => yields_map.2 ⟨body, h, rfl⟩
      · exact fun tokens' _ e h => fails_map.2 h
      · rintro body tokens rest ⟨behind, hbody, ⟨⟩⟩
        exact hstands body tokens rest _ hbody

theorem readOperand_decides (tokens : List Token) :
    Decides false stop (readOperand stop deeper) (OperandAt fits) tokens := by
  have hbegins : ∃ operand more, OperandAt fits operand more [] :=
    ⟨.text "", [⟨.word "", .start⟩], .word⟩
  match tokens with
  | [] => exact .unexpected_nil .value hbegins rfl
  | ⟨.word chars, pos⟩ :: rest =>
      exact .cons (.here (.text chars) (fun _ => .word) fun _ _ => ⟨_, rfl⟩)
  | ⟨.text chars, pos⟩ :: rest =>
      exact .cons (.here (.text chars) (fun _ => .text) fun _ _ => ⟨_, rfl⟩)
  | ⟨.mark m, pos⟩ :: rest =>
      cases m with
      | leftBrace =>
          exact .cons (readNested_decides hdeeper (fun _ _ _ _ inside => .list inside) rest)
      | _ => exact .unexpected_cons .value hbegins rfl fun _ => rfl

theorem readOptions_decides (tokens : List Token) :
    Decides true stop (readOptions stop deeper) (OptionsAt fits) tokens := by
  cases hoption : startsOption tokens with
  | false =>
      refine .here [] (fun rest => .nil) fun tokens' h => ?_
      exact yields_readOptions_nil ((h.option rfl).symm.trans hoption)
  | true =>
      obtain ⟨name, pos, pos', behind, htokens⟩ := startsOption_eq_true hoption
      rw [htokens]
      refine .cons (.cons (.andThen (fun tokens' _ => readOptions_runsAs name pos pos' tokens')
        (fun _ _ _ => rfl) (readOperand_decides hdeeper behind)
        (fun operand front rest split _ => readOptions_decides rest) ?_ ?_))
      · exact fun operand options tokens middle rest one more => .cons one more
      · intro operand tokens one
        refine ⟨[(name, operand)], [], ?_⟩
        rw [List.append_nil]
        exact .cons one .nil
termination_by tokens.length
decreasing_by
  simp only [htokens, split, List.length_cons, List.length_append]
  omega

theorem readTestOperand_decides (tokens : List Token) :
    Decides false stop (readTestOperand stop deeper) (TestOperandAt fits) tokens := by
  cases hequals : startsWith .equals tokens with
  | false =>
      refine .here none (fun rest => .none) fun tokens' h => ?_
      exact yields_readTestOperand_none ((startsWith_congr .equals h.head).symm.trans hequals)
  | true =>
      obtain ⟨pos, rest, rfl⟩ := startsWith_eq_true_iff.1 hequals
      refine .cons ((readOperand_decides hdeeper rest).map some ?_ ?_ ?_)
      · exact fun tokens' _ operand rest h => yields_map_widen.2 ⟨operand, h, rfl⟩
      · exact fun tokens' _ e h => fails_map.2 h
      · exact fun operand tokens rest one => .some one

omit hdeeper in
theorem readFurther_decides (tokens : List Token)
    (h : ∀ token behind, tokens = token :: behind →
      Decides false stop (readTests stop deeper) (TestsAt fits) behind) :
    Decides false stop (readFurther stop deeper) (FurtherAt fits) tokens := by
  by_cases hcomma : startsWith .comma tokens = true
  · obtain ⟨pos, behind, rfl⟩ := startsWith_eq_true_iff.1 hcomma
    refine .cons ((h _ behind rfl).map (Joint.and, ·) ?_ ?_ ?_)
    · exact fun tokens' _ tests rest h => yields_map_widen.2 ⟨tests, h, rfl⟩
    · exact fun tokens' _ e h => fails_map.2 h
    · exact fun tests tokens rest more => .comma more
  by_cases hpipe : startsWith .pipe tokens = true
  · obtain ⟨pos, behind, rfl⟩ := startsWith_eq_true_iff.1 hpipe
    refine .cons ((h _ behind rfl).map (Joint.or, ·) ?_ ?_ ?_)
    · exact fun tokens' _ tests rest h => yields_map_widen.2 ⟨tests, h, rfl⟩
    · exact fun tokens' _ e h => fails_map.2 h
    · exact fun tests tokens rest more => .pipe more
  refine .here (.or, []) (fun rest => .none) fun tokens' hlook => ?_
  rw [startsWith_congr .comma hlook.head] at hcomma
  rw [startsWith_congr .pipe hlook.head] at hpipe
  unfold readFurther
  split
  next pos rest => exact absurd rfl hcomma
  next pos rest => exact absurd rfl hpipe
  next => exact ⟨_, rfl⟩

theorem readTests_decides (tokens : List Token) :
    Decides false stop (readTests stop deeper) (TestsAt fits) tokens := by
  have hbegins : ∃ tests more, TestsAt fits tests more [] :=
    ⟨[⟨"", none, .or⟩], [⟨.word "", .start⟩], .last .none⟩
  match tokens with
  | [] => exact .unexpected_nil .name hbegins (by rw [readTests]; rintro _ _ _ ⟨⟩)
  | ⟨.text chars, pos⟩ :: rest | ⟨.mark m, pos⟩ :: rest =>
      refine .unexpected_cons .name hbegins rfl fun rest' => ?_
      rw [readTests]
      rintro _ _ _ ⟨⟩
  | ⟨.word key, pos⟩ :: tokens =>
      refine .cons (.andThen (fun tokens' _ => readTests_runsAs key pos tokens') (fun _ _ h => h)
        (readTestOperand_decides hdeeper tokens)
        (fun operand front rest split _ =>
          readFurther_decides rest fun token behind hrest => readTests_decides behind)
        ?_ ?_)
      · exact fun operand further tokens middle rest given more => more.tests given
      · intro operand tokens given
        refine ⟨[⟨key, operand, .or⟩], [], ?_⟩
        rw [List.append_nil]
        exact .last given
termination_by tokens.length
decreasing_by
  simp only [split, hrest, List.length_cons, List.length_append]
  omega

theorem readChain_decides (tokens : List Token) :
    Decides false stop (readChain stop deeper) (ChainAt fits) tokens := by
  cases hbracket : startsWith .rightBracket tokens with
  | true =>
      refine .here none (fun rest => .none) fun tokens' h => ?_
      rw [startsWith_congr .rightBracket h.head] at hbracket
      obtain ⟨pos, rest, rfl⟩ := startsWith_eq_true_iff.1 hbracket
      exact ⟨_, rfl⟩
  | false =>
      refine (readTests_decides hdeeper tokens).map some ?_ ?_ ?_
      · intro tokens' hhead tests rest h
        rw [startsWith_congr .rightBracket hhead] at hbracket
        exact yields_readChain_some hbracket h
      · intro tokens' hhead e h
        rw [startsWith_congr .rightBracket hhead] at hbracket
        exact (fails_readChain hbracket).2 h
      · exact fun tests tokens rest one => .some one

theorem readGuard_decides (tokens : List Token) :
    Decides false stop (readGuard stop deeper) (GuardAt fits) tokens := by
  let bracket : Token := ⟨.mark .rightBracket, .start⟩
  cases readChain_decides hdeeper tokens with
  | tooDeep e fault fails => exact .tooDeep e fault (fails_bind.2 (.inl fails))
  | rejects wanted before behind split begins start again =>
      obtain ⟨test, more, chain⟩ := begins
      have hmore := chain.append [bracket]
      rw [List.append_assoc] at hmore
      exact .rejects wanted before behind split ⟨test, _, .start, hmore⟩ start fun behind' hhead =>
        fails_bind.2 (.inl (again behind' hhead))
  | accepts test front rest split there again =>
      cases hbracket : startsWith .rightBracket rest with
      | true =>
          obtain ⟨pos, middle, rfl⟩ := startsWith_eq_true_iff.1 hbracket
          have happend : ∀ rest', front ++ [⟨.mark .rightBracket, pos⟩] ++ rest' =
              front ++ ⟨.mark .rightBracket, pos⟩ :: rest' := fun rest' => List.append_assoc ..
          refine .accepts test (front ++ [⟨.mark .rightBracket, pos⟩]) middle
            (split.trans (happend middle).symm) ?_ ?_
          · intro rest'
            rw [happend]
            exact ⟨pos, there _⟩
          · intro rest' _
            rw [happend]
            obtain ⟨hrest, hchain⟩ := again (⟨.mark .rightBracket, pos⟩ :: rest') ⟨rfl, nofun⟩
            exact yields_bind.2 ⟨test, _, hrest, ⟨_, hchain⟩, yields_bind.2
              ⟨(), rest', Nat.lt_succ_self _, ⟨_, rfl⟩, yields_ok.2 ⟨rfl, rfl⟩⟩⟩
      | false =>
          refine .rejects .rightBracket front rest split ⟨test, [bracket], .start, there _⟩ ?_ ?_
          · rintro rfl
            exact absurd hbracket (yields_readChain_self (again rest (.refl false rest)))
          · intro rest' hhead
            rw [startsWith_congr .rightBracket hhead] at hbracket
            refine (again rest' ⟨hhead, nofun⟩).bind_fails fun _ => fails_bind.2 (.inl ?_)
            exact fails_readRightBracket hbracket

theorem readOtherwise_decides (tokens : List Token) :
    Decides true stop (readOtherwise stop deeper) (OtherwiseAt fits) tokens := by
  cases hpipe : startsWith .pipe tokens with
  | false =>
      refine .here none (fun rest => .none) fun tokens' h => ?_
      exact yields_readOtherwise_none ((startsWith_congr .pipe h.head).symm.trans hpipe)
  | true =>
      obtain ⟨pos, rest, rfl⟩ := startsWith_eq_true_iff.1 hpipe
      refine .cons ?_
      cases deeper with
      | none => exact .tooDeep _ rfl ⟨[], rfl⟩
      | some readOne =>
          refine (hdeeper readOne rfl rest).map some ?_ ?_ ?_
          · exact fun tokens' _ s rest h => yields_map_widen.2 ⟨s, h, rfl⟩
          · exact fun tokens' _ e h => fails_map.2 h
          · exact fun s tokens rest second => .some second

theorem readBranches_decides (tokens : List Token) :
    Decides true stop (readBranches stop deeper) (BranchesAt fits) tokens := by
  cases deeper with
  | none => exact .tooDeep _ rfl ⟨[], rfl⟩
  | some readOne =>
      refine .andThen (fun tokens' _ => readBranches_runsAs readOne tokens') (fun _ _ h => h)
        (hdeeper readOne rfl tokens) (fun _ _ rest _ _ => readOtherwise_decides hdeeper rest) ?_ ?_
      · exact fun accepted otherwise tokens middle rest first second => ⟨middle, first, second⟩
      · intro accepted tokens first
        refine ⟨(accepted, none), [], [], ?_, .none⟩
        rwa [List.append_nil]

theorem readConditional_decides (hfits : ∀ s, fits s) (pos : Position) (tokens : List Token) :
    Decides true stop (readConditional stop deeper)
      (fun s tokens => StatementAt fits s (⟨.mark .leftBracket, pos⟩ :: tokens)) tokens := by
  refine .andThen (fun tokens' _ => readGuard_runsAs tokens') ?_ (readGuard_decides hdeeper tokens)
    (fun _ _ rest _ _ => readBranches_decides hdeeper rest) ?_ ?_
  · exact fun _ _ h => absurd h Bool.false_ne_true
  · exact fun test branches tokens middle rest hguard h => h.conditional hfits hguard
  · rintro test tokens ⟨pos', chain⟩
    have hchain := chain.append [⟨.word "", .start⟩]
    exact ⟨.conditional test (.action "" []) none, [⟨.word "", .start⟩],
      .when hchain (.action .nil)⟩

theorem readStatementWith_decides (hfits : ∀ s, fits s) (tokens : List Token) :
    Decides true stop (readStatementWith stop deeper) (StatementAt fits) tokens := by
  have hbegins : ∃ s more, StatementAt fits s more [] :=
    ⟨.action "" [], [⟨.word "", .start⟩], .action .nil⟩
  match tokens with
  | [] => exact .unexpected_nil .action hbegins rfl
  | ⟨.word name, pos⟩ :: rest =>
      refine .cons ((readOptions_decides hdeeper rest).map (.action name) ?_ ?_ ?_)
      · exact fun tokens' _ options rest h => yields_map.2 ⟨options, h, rfl⟩
      · exact fun tokens' _ e h => fails_map.2 h
      · exact fun options tokens rest given => .action given
  | ⟨.text chars, pos⟩ :: rest => exact .unexpected_cons .action hbegins rfl fun _ => rfl
  | ⟨.mark m, pos⟩ :: rest =>
      cases m with
      | leftBracket =>
          refine .cons ((readConditional_decides hdeeper hfits pos rest).map id ?_ ?_ ?_)
          · exact fun tokens' _ s rest h => yields_widen.2 h
          · exact fun tokens' _ e h => fails_map.2 h
          · exact fun s tokens rest h => h
      | leftBrace =>
          exact .cons (.weaken
            (readNested_decides hdeeper (fun _ _ _ _ inside => .block inside) rest))
      | _ => exact .unexpected_cons .action hbegins rfl fun _ => rfl

omit hdeeper in
theorem readStatement_decides (hfits : ∀ s, fits s) (stop : Position) (levels : Nat)
    (tokens : List Token) :
    Decides true stop (readStatement stop levels) (StatementAt fits) tokens := by
  induction levels generalizing tokens with
  | zero =>
      refine readStatementWith_decides ?_ hfits tokens
      intro readOne hnone
      cases hnone
  | succ levels ih =>
      refine readStatementWith_decides ?_ hfits tokens
      intro readOne hsome
      cases hsome
      exact ih

end Decides

end WindowActions
