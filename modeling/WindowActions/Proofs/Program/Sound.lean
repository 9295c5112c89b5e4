import WindowActions.Proofs.Program.Grammar
import WindowActions.Proofs.Program.Yields

/-!
# What the readers of programs find is there

Whatever a reader gives back stands at the front of its tokens, as the grammar has it. Second
branches are found where they belong, since a statement that could take one takes it: what stands
behind an open statement is no `|`.
-/

namespace WindowActions

/-- How a list ends: with the closing brace if it is nested, else with the last token. -/
inductive ListEnd : Bool → List Token → List Token → Prop
  | closed {pos : Position} {rest : List Token} :
      ListEnd true (⟨.mark .rightBrace, pos⟩ :: rest) rest
  | stop : ListEnd false [] []

/-- What the reader gives back stands there, is nested no deeper than so many levels, and leaves no
second branch behind that it could have taken. -/
def IsSound (readOne : Reader Statement) (levels : Nat) : Prop :=
  ∀ tokens s rest, Yields (readOne tokens) s rest →
    StatementAt Statement.IsClosed s tokens rest ∧ s.depth ≤ levels ∧
      (s.isOpen = true → startsWith .pipe rest = false)

section Sound

variable {stop : Position} {readOne : Reader Statement} {deeper : Option (Reader Statement)}
  {levels : Nat} {tokens rest : List Token}

theorem readList_sound (hone : IsSound readOne levels) {nested : Bool} {body : List Statement}
    (h : Yields (readList stop readOne nested tokens) body rest) :
    ∃ behind, BodyAt Statement.IsClosed body tokens behind ∧ ListEnd nested behind rest ∧
      bodyDepth body ≤ levels := by
  fun_induction readList stop readOne nested tokens generalizing body with
  | case1 hnested => exact absurd h not_yields_unexpected
  | case2 hnested =>
      obtain ⟨rfl, rfl⟩ := yields_ok.1 h
      rw [Bool.not_eq_true] at hnested
      rw [hnested]
      exact ⟨[], .nil, .stop, Nat.zero_le _⟩
  | case3 pos rest ih =>
      obtain ⟨behind, hbody, hend, hdepth⟩ := ih (yields_widen.1 h)
      exact ⟨behind, .newline hbody, hend, hdepth⟩
  | case4 pos rest ih =>
      obtain ⟨behind, hbody, hend, hdepth⟩ := ih (yields_widen.1 h)
      exact ⟨behind, .semicolon hbody, hend, hdepth⟩
  | case5 token rest hnewline hsemicolon hclose =>
      obtain ⟨rfl, rfl⟩ := yields_ok.1 h
      obtain ⟨kind, pos⟩ := token
      obtain ⟨rfl, hkind⟩ := hclose
      cases hkind
      exact ⟨_, .nil, .closed, Nat.zero_le _⟩
  | case6 token rest hnewline hsemicolon hclose e he => exact absurd h not_yields_error
  | case7 token rest hnewline hsemicolon hclose one hone' hshorter ih =>
      obtain ⟨more, hmore, rfl⟩ := yields_map_widen.1 h
      obtain ⟨behind, hbody, hend, hdepth⟩ := ih (yields_hearing.1 hmore)
      obtain ⟨hs, hsdepth, -⟩ := hone _ one.value one.rest ⟨one.shorter, hone'⟩
      exact ⟨behind, .cons hs hbody, hend, Nat.max_le.2 ⟨hsdepth, hdepth⟩⟩

/-- What the reader one level further in gives back stands there, if there is such a reader. -/
def IsDeeperSound (deeper : Option (Reader Statement)) (levels : Nat) : Prop :=
  ∀ readOne, deeper = some readOne → ∃ m, m < levels ∧ IsSound readOne m

variable (hdeeper : IsDeeperSound deeper levels)

include hdeeper

theorem readOperand_sound {operand : Operand}
    (h : Yields (readOperand stop deeper tokens) operand rest) :
    OperandAt Statement.IsClosed operand tokens rest ∧ operand.depth ≤ levels := by
  unfold readOperand at h
  split at h
  next chars pos rest =>
    obtain ⟨rfl, rfl⟩ := yields_ok.1 h
    exact ⟨.word, Nat.zero_le _⟩
  next chars pos rest =>
    obtain ⟨rfl, rfl⟩ := yields_ok.1 h
    exact ⟨.text, Nat.zero_le _⟩
  next pos rest =>
    obtain ⟨readOne, rfl, h⟩ := yields_withDeeper.1 h
    obtain ⟨body, hbody, rfl⟩ := yields_map.1 h
    obtain ⟨m, hm, hone⟩ := hdeeper readOne rfl
    obtain ⟨behind, hinside, hend, hdepth⟩ := readList_sound hone hbody
    cases hend with
    | closed => exact ⟨.list hinside, Nat.lt_of_le_of_lt hdepth hm⟩
  next => exact absurd h not_yields_unexpected

theorem readOptions_sound {options : List (String × Operand)}
    (h : Yields (readOptions stop deeper tokens) options rest) :
    OptionsAt Statement.IsClosed options tokens rest ∧ optionsDepth options ≤ levels := by
  fun_induction readOptions stop deeper tokens generalizing options with
  | case1 name pos pos' tokens e he => exact absurd h not_yields_error
  | case2 name pos pos' tokens operand hone hshorter ih =>
      obtain ⟨more, hmore, rfl⟩ := yields_map_widen.1 h
      obtain ⟨hoptions, hdepth⟩ := ih (yields_hearing.1 hmore)
      obtain ⟨hoperand, hdepth'⟩ := readOperand_sound hdeeper ⟨operand.shorter, hone⟩
      exact ⟨.cons hoperand hoptions, Nat.max_le.2 ⟨hdepth', hdepth⟩⟩
  | case3 tokens hnone =>
      obtain ⟨rfl, rfl⟩ := yields_ok.1 h
      exact ⟨.nil, Nat.zero_le _⟩

theorem readTestOperand_sound {operand : Option Operand}
    (h : Yields (readTestOperand stop deeper tokens) operand rest) :
    TestOperandAt Statement.IsClosed operand tokens rest ∧ testOperandDepth operand ≤ levels := by
  unfold readTestOperand at h
  split at h
  next pos tokens =>
    obtain ⟨operand, hone, rfl⟩ := yields_map_widen.1 h
    obtain ⟨hoperand, hdepth⟩ := readOperand_sound hdeeper hone
    exact ⟨.some hoperand, hdepth⟩
  next =>
    obtain ⟨rfl, rfl⟩ := yields_ok.1 h
    exact ⟨.none, Nat.zero_le _⟩

theorem readTests_sound {tests : List Test}
    (h : Yields (readTests stop deeper tokens) tests rest) :
    TestsAt Statement.IsClosed tests tokens rest ∧ testsDepth tests ≤ levels := by
  fun_induction readTests stop deeper tokens generalizing tests with
  | case1 key pos tokens e he => exact absurd h not_yields_error
  | case2 key pos tokens operand hgiven hshorter pos' behind hrest hshorter' test =>
      rename_i ih
      obtain ⟨more, hmore, rfl⟩ := yields_map_widen.1 h
      obtain ⟨htests, hdepth⟩ := ih (yields_hearing.1 hmore)
      obtain ⟨hoperand, hdepth'⟩ := readTestOperand_sound hdeeper ⟨operand.shorter, hgiven⟩
      rw [hrest] at hoperand
      exact ⟨.comma hoperand htests, Nat.max_le.2 ⟨hdepth', hdepth⟩⟩
  | case3 key pos tokens operand hgiven hshorter pos' behind hrest hshorter' test =>
      rename_i ih
      obtain ⟨more, hmore, rfl⟩ := yields_map_widen.1 h
      obtain ⟨htests, hdepth⟩ := ih (yields_hearing.1 hmore)
      obtain ⟨hoperand, hdepth'⟩ := readTestOperand_sound hdeeper ⟨operand.shorter, hgiven⟩
      rw [hrest] at hoperand
      exact ⟨.pipe hoperand htests, Nat.max_le.2 ⟨hdepth', hdepth⟩⟩
  | case4 key pos tokens operand hgiven hshorter hcomma hpipe =>
      obtain ⟨rfl, rfl⟩ := yields_ok.1 h
      obtain ⟨hoperand, hdepth⟩ := readTestOperand_sound hdeeper ⟨operand.shorter, hgiven⟩
      exact ⟨.last hoperand, Nat.max_le.2 ⟨hdepth, Nat.zero_le _⟩⟩
  | case5 tokens hnone => exact absurd h not_yields_unexpected

theorem readChain_sound {chain : Option (List Test)}
    (h : Yields (readChain stop deeper tokens) chain rest) :
    ChainAt Statement.IsClosed chain tokens rest ∧ chainDepth chain ≤ levels := by
  unfold readChain at h
  split at h
  next pos tokens =>
    obtain ⟨rfl, rfl⟩ := yields_ok.1 h
    exact ⟨.none, Nat.zero_le _⟩
  next =>
    obtain ⟨tests, htests, rfl⟩ := yields_map_widen.1 h
    obtain ⟨htests, hdepth⟩ := readTests_sound hdeeper htests
    exact ⟨.some htests, hdepth⟩

/-- Without a second branch, the next token is no `|`. -/
theorem readOtherwise_sound {otherwise : Option Statement}
    (h : Yields (readOtherwise stop deeper tokens) otherwise rest) :
    (otherwise = none ∧ rest = tokens ∧ startsWith .pipe rest = false) ∨
      ∃ s pos behind, otherwise = some s ∧ tokens = ⟨.mark .pipe, pos⟩ :: behind ∧
        StatementAt Statement.IsClosed s behind rest ∧ s.depth < levels ∧
        (s.isOpen = true → startsWith .pipe rest = false) := by
  unfold readOtherwise at h
  split at h
  next pos behind =>
    obtain ⟨readOne, rfl, h⟩ := yields_withDeeper.1 h
    obtain ⟨s, hs, rfl⟩ := yields_map_widen.1 h
    obtain ⟨m, hm, hone⟩ := hdeeper readOne rfl
    obtain ⟨hat, hdepth, hpipe⟩ := hone _ _ _ hs
    exact Or.inr ⟨s, pos, behind, rfl, rfl, hat, Nat.lt_of_le_of_lt hdepth hm, hpipe⟩
  next hnone =>
    obtain ⟨rfl, rfl⟩ := yields_ok.1 h
    exact Or.inl ⟨rfl, rfl, startsWith_eq_false hnone⟩

theorem readConditional_sound {pos : Position} {s : Statement}
    (h : Yields (readConditional stop deeper tokens) s rest) :
    StatementAt Statement.IsClosed s (⟨.mark .leftBracket, pos⟩ :: tokens) rest ∧
      s.depth ≤ levels ∧ (s.isOpen = true → startsWith .pipe rest = false) := by
  obtain ⟨test, pos', middle, readOne, accepted, behind, otherwise, rfl, hchain, hone, hfirst,
    hsecond⟩ := yields_readConditional.1 h
  obtain ⟨htest, htestDepth⟩ := readChain_sound hdeeper hchain
  obtain ⟨m, hm, hsound⟩ := hdeeper readOne hone
  obtain ⟨haccepted, hacceptedDepth, hopen⟩ := hsound _ _ _ hfirst
  have hdepth : accepted.depth + 1 ≤ levels := Nat.lt_of_le_of_lt hacceptedDepth hm
  rcases readOtherwise_sound hdeeper hsecond with ⟨rfl, rfl, hpipe⟩ |
    ⟨s, pos'', behind', rfl, rfl, hs, hsDepth, hsOpen⟩
  · refine ⟨.when htest haccepted, ?_, fun _ => hpipe⟩
    exact Nat.max_le.2 ⟨htestDepth, Nat.max_le.2 ⟨hdepth, Nat.zero_le _⟩⟩
  · have hclosed : accepted.IsClosed := by
      rw [Statement.IsClosed, ← Bool.not_eq_true]
      intro haccepted
      cases hopen haccepted
    refine ⟨.whenElse htest haccepted hclosed hs, ?_, hsOpen⟩
    exact Nat.max_le.2 ⟨htestDepth, Nat.max_le.2 ⟨hdepth, hsDepth⟩⟩

theorem readStatementWith_sound : IsSound (readStatementWith stop deeper) levels := by
  intro tokens s rest h
  unfold readStatementWith at h
  split at h
  next pos tokens => exact readConditional_sound hdeeper (yields_widen.1 h)
  next pos tokens =>
    obtain ⟨readOne, rfl, h⟩ := yields_withDeeper.1 h
    obtain ⟨body, hbody, rfl⟩ := yields_map.1 h
    obtain ⟨m, hm, hone⟩ := hdeeper readOne rfl
    obtain ⟨behind, hinside, hend, hdepth⟩ := readList_sound hone hbody
    cases hend with
    | closed =>
        refine ⟨.block hinside, Nat.lt_of_le_of_lt hdepth hm, fun hopen => ?_⟩
        cases hopen
  next name pos tokens =>
    obtain ⟨options, hoptions, rfl⟩ := yields_map.1 h
    obtain ⟨hgiven, hdepth⟩ := readOptions_sound hdeeper hoptions
    refine ⟨.action hgiven, hdepth, fun hopen => ?_⟩
    cases hopen
  next => exact absurd h not_yields_unexpected

omit hdeeper in
theorem readStatement_sound (stop : Position) (levels : Nat) :
    IsSound (readStatement stop levels) levels := by
  induction levels with
  | zero =>
      refine readStatementWith_sound ?_
      intro readOne hnone
      cases hnone
  | succ levels ih =>
      refine readStatementWith_sound ?_
      intro readOne hsome
      cases hsome
      exact ⟨levels, Nat.lt_succ_self _, ih⟩

end Sound

theorem TokenStream.toProgram_eq_ok_iff {stream : TokenStream} {p : Program} :
    stream.toProgram = .ok p ↔ ∃ rest,
      Yields (readList stream.stop (readStatement stream.stop maxNesting) false stream.tokens) p
        rest := by
  unfold TokenStream.toProgram
  cases readList stream.stop (readStatement stream.stop maxNesting) false stream.tokens with
  | error r => simp [Except.map]
  | ok r => simp [Except.map]

/-- What a program is read as stands in its tokens, and is nested no deeper than allowed. -/
theorem TokenStream.toProgram_sound {stream : TokenStream} {p : Program}
    (h : stream.toProgram = .ok p) :
    BodyAt Statement.IsClosed p stream.tokens [] ∧ bodyDepth p ≤ maxNesting := by
  obtain ⟨rest, h⟩ := toProgram_eq_ok_iff.1 h
  obtain ⟨behind, hbody, hend, hdepth⟩ := readList_sound (readStatement_sound _ _) h
  cases hend with
  | stop => exact ⟨hbody, hdepth⟩

end WindowActions
