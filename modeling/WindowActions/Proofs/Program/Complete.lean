import WindowActions.Proofs.Program.Sound

/-!
# The readers of programs find what is there

A statement that stands at the front of the tokens is read, if it is nested no deeper than the
reader goes, and if nothing behind it could be taken for a part of it. Behind the statements of a
list nothing can: a list goes on with a statement, a `;`, a line end or its own end, and none of
them begins with a `|` or a `:`.
-/

namespace WindowActions

/-- Tokens that cannot be taken for a part of a statement in front of them. -/
structure Fresh (tokens : List Token) : Prop where
  pipe : startsWith .pipe tokens = false
  colon : startsWith .colon tokens = false
  option : startsOption tokens = false

/-- Tokens that cannot be taken for a part of this statement in front of them. -/
structure Statement.Precedes (s : Statement) (tokens : List Token) : Prop where
  pipe : s.isOpen = true → startsWith .pipe tokens = false
  option : startsOption tokens = false

theorem Fresh.precedes {tokens : List Token} (h : Fresh tokens) (s : Statement) :
    s.Precedes tokens :=
  ⟨fun _ => h.pipe, h.option⟩

theorem ListEnd.fresh {nested : Bool} {tokens rest : List Token} (h : ListEnd nested tokens rest) :
    Fresh tokens := by
  cases h <;> exact ⟨rfl, rfl, rfl⟩

section Fresh

variable {fits : Statement → Prop} {tokens rest : List Token}

theorem OptionsAt.startsWith_colon {options : List (String × Operand)}
    (h : OptionsAt fits options tokens rest) (hrest : startsWith .colon rest = false) :
    startsWith .colon tokens = false := by
  cases h with
  | nil => exact hrest
  | cons one more => rfl

theorem StatementAt.fresh {s : Statement} (h : StatementAt fits s tokens rest)
    (hrest : startsWith .colon rest = false) : Fresh tokens := by
  cases h with
  | action given => exact ⟨rfl, rfl, given.startsWith_colon hrest⟩
  | block inside => exact ⟨rfl, rfl, rfl⟩
  | when chain first => exact ⟨rfl, rfl, rfl⟩
  | whenElse chain first fit second => exact ⟨rfl, rfl, rfl⟩

theorem BodyAt.fresh {body : List Statement} {tokens rest : List Token}
    (h : BodyAt fits body tokens rest) (hrest : Fresh rest) : Fresh tokens := by
  match h with
  | .nil => exact hrest
  | .newline more => exact ⟨rfl, rfl, rfl⟩
  | .semicolon more => exact ⟨rfl, rfl, rfl⟩
  | .cons one more => exact one.fresh (more.fresh hrest).colon

theorem TestsAt.startsWith_rightBracket {tests : List Test} (h : TestsAt fits tests tokens rest) :
    startsWith .rightBracket tokens = false := by
  cases h <;> rfl

theorem StatementAt.head {s : Statement} (h : StatementAt fits s tokens rest) :
    ∃ token more, tokens = token :: more ∧ token.kind ≠ .mark .newline ∧
      token.kind ≠ .mark .semicolon ∧ token.kind ≠ .mark .rightBrace := by
  cases h <;> exact ⟨_, _, rfl, by simp⟩

end Fresh

/-- The reader that is one level further in than that of so many levels. -/
def readerBelow (stop : Position) : Nat → Option (Reader Statement)
  | 0 => none
  | levels + 1 => some (readStatement stop levels)

theorem readStatement_eq (stop : Position) (levels : Nat) :
    readStatement stop levels = readStatementWith stop (readerBelow stop levels) := by
  cases levels <;> rfl

theorem Statement.depth_conditional_le {test : Option (List Test)} {accepted : Statement}
    {otherwise : Option Statement} {n : Nat}
    (h : (Statement.conditional test accepted otherwise).depth ≤ n) :
    ∃ m, n = m + 1 ∧ chainDepth test ≤ m + 1 ∧ accepted.depth ≤ m ∧
      otherwiseDepth otherwise ≤ m + 1 := by
  obtain ⟨htest, hbranches⟩ := Nat.max_le.1 h
  obtain ⟨haccepted, hotherwise⟩ := Nat.max_le.1 hbranches
  cases n with
  | zero => exact absurd haccepted (Nat.not_succ_le_zero _)
  | succ m => exact ⟨m, rfl, htest, Nat.le_of_succ_le_succ haccepted, hotherwise⟩

mutual

theorem OperandAt.read {operand : Operand} {tokens rest : List Token}
    (h : OperandAt Statement.IsClosed operand tokens rest) (stop : Position) {levels : Nat}
    (hdepth : operand.depth ≤ levels) :
    Yields (readOperand stop (readerBelow stop levels) tokens) operand rest := by
  match h with
  | .word => exact ⟨_, rfl⟩
  | .text => exact ⟨_, rfl⟩
  | .list inside =>
      cases levels with
      | zero => exact absurd hdepth (Nat.not_succ_le_zero _)
      | succ levels =>
          have hbody := inside.read stop (Nat.le_of_succ_le_succ hdepth) .closed
          exact yields_map.2 ⟨_, hbody, rfl⟩

theorem BodyAt.read {body : List Statement} {nested : Bool} {tokens middle rest : List Token}
    (h : BodyAt Statement.IsClosed body tokens middle) (stop : Position) {levels : Nat}
    (hdepth : bodyDepth body ≤ levels) (hend : ListEnd nested middle rest) :
    Yields (readList stop (readStatement stop levels) nested tokens) body rest := by
  match h with
  | .nil =>
      cases hend with
      | closed =>
          rw [readList]
          · exact ⟨_, rfl⟩
          · exact fun pos heq => by cases heq
          · exact fun pos heq => by cases heq
      | stop =>
          rw [readList]
          exact ⟨_, rfl⟩
  | .newline more =>
      rw [readList]
      exact yields_widen.2 (more.read stop hdepth hend)
  | .semicolon more =>
      rw [readList]
      exact yields_widen.2 (more.read stop hdepth hend)
  | .cons one more =>
      obtain ⟨hone, hmore⟩ := Nat.max_le.1 hdepth
      have hs := one.read stop hone ((more.fresh hend.fresh).precedes _)
      obtain ⟨token, tokens, rfl, hnewline, hsemicolon, hbrace⟩ := one.head
      exact yields_readList_cons hnewline hsemicolon hbrace hs (more.read stop hmore hend)

theorem StatementAt.read {s : Statement} {tokens rest : List Token}
    (h : StatementAt Statement.IsClosed s tokens rest) (stop : Position) {levels : Nat}
    (hdepth : s.depth ≤ levels) (hrest : s.Precedes rest) :
    Yields (readStatement stop levels tokens) s rest := by
  rw [readStatement_eq]
  match h with
  | .action given =>
      exact yields_map.2 ⟨_, given.read stop hdepth hrest.option, rfl⟩
  | .block inside =>
      cases levels with
      | zero => exact absurd hdepth (Nat.not_succ_le_zero _)
      | succ levels =>
          have hbody := inside.read stop (Nat.le_of_succ_le_succ hdepth) .closed
          exact yields_map.2 ⟨_, hbody, rfl⟩
  | .when chain first =>
      obtain ⟨levels, rfl, htest, haccepted, -⟩ := Statement.depth_conditional_le hdepth
      have hpipe := hrest.pipe rfl
      have hfirst := first.read stop haccepted ⟨fun _ => hpipe, hrest.option⟩
      exact yields_widen.2 (yields_readConditional.2 ⟨_, _, _, _, _, _, _, rfl,
        chain.read stop htest rfl, rfl, hfirst, yields_readOtherwise_none hpipe⟩)
  | .whenElse chain first fit second =>
      obtain ⟨levels, rfl, htest, haccepted, hotherwise⟩ := Statement.depth_conditional_le hdepth
      have hfirst := first.read stop haccepted
        ⟨fun hopen => absurd (fit.symm.trans hopen) Bool.false_ne_true, rfl⟩
      have hsecond := second.read stop (Nat.le_of_succ_le_succ hotherwise)
        ⟨hrest.pipe, hrest.option⟩
      exact yields_widen.2 (yields_readConditional.2 ⟨_, _, _, _, _, _, _, rfl,
        chain.read stop htest rfl, rfl, hfirst, yields_map_widen.2 ⟨_, hsecond, rfl⟩⟩)

theorem OptionsAt.read {options : List (String × Operand)} {tokens rest : List Token}
    (h : OptionsAt Statement.IsClosed options tokens rest) (stop : Position) {levels : Nat}
    (hdepth : optionsDepth options ≤ levels) (hrest : startsOption rest = false) :
    Yields (readOptions stop (readerBelow stop levels) tokens) options rest := by
  match h with
  | .nil => exact yields_readOptions_nil hrest
  | .cons one more =>
      obtain ⟨hone, hmore⟩ := Nat.max_le.1 hdepth
      exact yields_readOptions_cons (one.read stop hone) (more.read stop hmore hrest)

theorem TestOperandAt.read {operand : Option Operand} {tokens rest : List Token}
    (h : TestOperandAt Statement.IsClosed operand tokens rest) (stop : Position) {levels : Nat}
    (hdepth : testOperandDepth operand ≤ levels) (hrest : startsWith .equals rest = false) :
    Yields (readTestOperand stop (readerBelow stop levels) tokens) operand rest := by
  match h with
  | .none => exact yields_readTestOperand_none hrest
  | .some one => exact yields_map_widen.2 ⟨_, one.read stop hdepth, rfl⟩

theorem TestsAt.read {tests : List Test} {tokens rest : List Token}
    (h : TestsAt Statement.IsClosed tests tokens rest) (stop : Position) {levels : Nat}
    (hdepth : testsDepth tests ≤ levels) (hrest : startsWith .rightBracket rest = true) :
    Yields (readTests stop (readerBelow stop levels) tokens) tests rest := by
  match h with
  | .last given =>
      have hgiven := given.read stop (Nat.max_le.1 hdepth).1
        (startsWith_eq_false_of_ne hrest (by decide))
      exact yields_readTests_last hgiven hrest
  | .comma given more =>
      obtain ⟨hone, hmore⟩ := Nat.max_le.1 hdepth
      exact yields_readTests_comma (given.read stop hone rfl) (more.read stop hmore hrest)
  | .pipe given more =>
      obtain ⟨hone, hmore⟩ := Nat.max_le.1 hdepth
      exact yields_readTests_pipe (given.read stop hone rfl) (more.read stop hmore hrest)

theorem ChainAt.read {chain : Option (List Test)} {tokens rest : List Token}
    (h : ChainAt Statement.IsClosed chain tokens rest) (stop : Position) {levels : Nat}
    (hdepth : chainDepth chain ≤ levels) (hrest : startsWith .rightBracket rest = true) :
    Yields (readChain stop (readerBelow stop levels) tokens) chain rest := by
  match h with
  | .none =>
      obtain ⟨pos, more, rfl⟩ := startsWith_eq_true_iff.1 hrest
      exact ⟨_, rfl⟩
  | .some one =>
      exact yields_readChain_some one.startsWith_rightBracket (one.read stop hdepth hrest)

end

/-- A program that stands in the tokens is read, if it is not nested too deeply. -/
theorem TokenStream.toProgram_complete {stream : TokenStream} {p : Program}
    (h : BodyAt Statement.IsClosed p stream.tokens []) (hdepth : bodyDepth p ≤ maxNesting) :
    stream.toProgram = .ok p :=
  toProgram_eq_ok_iff.2 ⟨[], h.read _ hdepth .stop⟩

end WindowActions
