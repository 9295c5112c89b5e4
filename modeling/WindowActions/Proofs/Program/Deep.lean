import WindowActions.Proofs.Program.Complete
import WindowActions.Vocabulary.Resolve

/-!
# Programs that are nested too deeply

What stands at the front of the tokens is read, or the reader runs out of levels in it. There is no
third outcome. In the second case the phrases in front of the error are parts of what stands there,
so looking them up misuses no value if looking up the whole misuses none.
-/

namespace WindowActions

/-- Everything is looked up, and no value is misused. -/
def Resolved.IsOk {α : Type} (r : Resolved α) : Prop :=
  ∃ a, r.result = .ok a

theorem Resolved.isOk_bind_iff {α β : Type} {r : Resolved α} {f : α → Resolved β} :
    (r.bind f).IsOk ↔ ∃ a, r.result = .ok a ∧ (f a).IsOk := by
  unfold Resolved.bind
  cases hr : r.result with
  | error m => simp [IsOk]
  | ok a => simp [IsOk]

namespace Vocabulary

variable (v : Vocabulary)

/-- Looking up the phrase misuses no value. -/
def Allows : Phrase → Prop
  | .statement s => (v.resolveStatement s).IsOk
  | .test t => (v.resolveTests [t]).IsOk

variable {v} {s : Statement} {body : List Statement} {operand : Operand}

theorem resolvePhrases_eq_ok {phrases : List Phrase} (h : ∀ phrase ∈ phrases, v.Allows phrase) :
    (v.resolvePhrases phrases).result = .ok () := by
  induction phrases with
  | nil => rfl
  | cons phrase phrases ih =>
      obtain ⟨hphrase, hphrases⟩ := List.forall_mem_cons.1 h
      cases phrase with
      | statement s =>
          obtain ⟨entries, hs⟩ := hphrase
          simp only [resolvePhrases, Resolved.bind, hs, ih hphrases]
      | test t =>
          obtain ⟨terms, ht⟩ := hphrase
          simp only [resolvePhrases, Resolved.bind, ht, ih hphrases]

theorem isOk_resolveBody_cons (h : (v.resolveBody (s :: body)).IsOk) :
    (v.resolveStatement s).IsOk ∧ (v.resolveBody body).IsOk := by
  rw [resolveBody] at h
  obtain ⟨entries, hs, h⟩ := Resolved.isOk_bind_iff.1 h
  obtain ⟨more, hbody, -⟩ := Resolved.isOk_bind_iff.1 h
  exact ⟨⟨entries, hs⟩, ⟨more, hbody⟩⟩

theorem allows_of_mem_body (h : (v.resolveBody body).IsOk) :
    ∀ phrase ∈ body.map Phrase.statement, v.Allows phrase := by
  induction body with
  | nil => exact fun _ hmem => absurd hmem List.not_mem_nil
  | cons s body ih =>
      obtain ⟨hs, hbody⟩ := isOk_resolveBody_cons h
      exact List.forall_mem_cons.2 ⟨hs, ih hbody⟩

theorem isOk_resolveOperand_list (h : (v.resolveOperand (.list body)).IsOk) :
    (v.resolveBody body).IsOk := by
  rw [resolveOperand] at h
  obtain ⟨entries, hbody, -⟩ := Resolved.isOk_bind_iff.1 h
  exact ⟨entries, hbody⟩

theorem allows_of_mem_operand (h : (v.resolveOperand operand).IsOk) :
    ∀ phrase ∈ operand.phrases, v.Allows phrase := by
  cases operand with
  | text chars => exact fun _ hmem => absurd hmem List.not_mem_nil
  | list body => exact allows_of_mem_body (isOk_resolveOperand_list h)

theorem isOk_resolveStatement_action {name : String} {options : List (String × Operand)}
    (h : (v.resolveStatement (.action name options)).IsOk) : (v.resolveOptions options).IsOk := by
  rw [resolveStatement] at h
  obtain ⟨given, hoptions, -⟩ := Resolved.isOk_bind_iff.1 h
  exact ⟨given, hoptions⟩

theorem isOk_resolveOptions_cons {name : String} {options : List (String × Operand)}
    (h : (v.resolveOptions ((name, operand) :: options)).IsOk) :
    (v.resolveOperand operand).IsOk ∧ (v.resolveOptions options).IsOk := by
  rw [resolveOptions] at h
  obtain ⟨value, hoperand, h⟩ := Resolved.isOk_bind_iff.1 h
  obtain ⟨more, hoptions, -⟩ := Resolved.isOk_bind_iff.1 h
  exact ⟨⟨value, hoperand⟩, ⟨more, hoptions⟩⟩

/-- Looking up the operand of a test, if there is one, misuses no value. -/
def AllowsOperand (v : Vocabulary) : Option Operand → Prop
  | none => True
  | some operand => (v.resolveOperand operand).IsOk

theorem isOk_resolveTests_cons {key : String} {operand : Option Operand} {joint : Joint}
    {tests : List Test} (h : (v.resolveTests (⟨key, operand, joint⟩ :: tests)).IsOk) :
    v.AllowsOperand operand ∧ v.Allows (.test ⟨key, operand, joint⟩) ∧
      (v.resolveTests tests).IsOk := by
  cases operand with
  | none =>
      rw [resolveTests] at h
      obtain ⟨filter, hfilter, h⟩ := Resolved.isOk_bind_iff.1 h
      obtain ⟨more, htests, -⟩ := Resolved.isOk_bind_iff.1 h
      refine ⟨trivial, ?_, more, htests⟩
      simp only [Allows, resolveTests]
      exact Resolved.isOk_bind_iff.2 ⟨filter, hfilter, _, rfl⟩
  | some operand =>
      rw [resolveTests] at h
      obtain ⟨value, hvalue, h⟩ := Resolved.isOk_bind_iff.1 h
      obtain ⟨filter, hfilter, h⟩ := Resolved.isOk_bind_iff.1 h
      obtain ⟨more, htests, -⟩ := Resolved.isOk_bind_iff.1 h
      refine ⟨⟨value, hvalue⟩, ?_, more, htests⟩
      simp only [Allows, resolveTests]
      exact Resolved.isOk_bind_iff.2
        ⟨value, hvalue, Resolved.isOk_bind_iff.2 ⟨filter, hfilter, _, rfl⟩⟩

/-- Looking up the tests between two brackets, if there are any, misuses no value. -/
def AllowsChain (v : Vocabulary) : Option (List Test) → Prop
  | none => True
  | some tests => (v.resolveTests tests).IsOk

theorem isOk_resolveStatement_conditional {test : Option (List Test)} {accepted : Statement}
    {otherwise : Option Statement}
    (h : (v.resolveStatement (.conditional test accepted otherwise)).IsOk) :
    v.AllowsChain test ∧ (v.resolveStatement accepted).IsOk ∧
      (v.resolveOtherwise otherwise).IsOk := by
  cases test with
  | none =>
      rw [resolveStatement] at h
      obtain ⟨entries, haccepted, h⟩ := Resolved.isOk_bind_iff.1 h
      obtain ⟨entries', hotherwise, -⟩ := Resolved.isOk_bind_iff.1 h
      exact ⟨trivial, ⟨entries, haccepted⟩, entries', hotherwise⟩
  | some tests =>
      rw [resolveStatement] at h
      obtain ⟨terms, htests, h⟩ := Resolved.isOk_bind_iff.1 h
      obtain ⟨entries, haccepted, h⟩ := Resolved.isOk_bind_iff.1 h
      obtain ⟨entries', hotherwise, -⟩ := Resolved.isOk_bind_iff.1 h
      exact ⟨⟨terms, htests⟩, ⟨entries, haccepted⟩, entries', hotherwise⟩

theorem allows_of_mem_tests {tests : List Test} (h : (v.resolveTests tests).IsOk) :
    ∀ phrase ∈ tests.map Phrase.test, v.Allows phrase := by
  induction tests with
  | nil => exact fun _ hmem => absurd hmem List.not_mem_nil
  | cons t tests ih =>
      obtain ⟨key, operand, joint⟩ := t
      obtain ⟨-, ht, htests⟩ := isOk_resolveTests_cons h
      exact List.forall_mem_cons.2 ⟨ht, ih htests⟩

theorem allows_of_mem_chain {chain : Option (List Test)} (h : v.AllowsChain chain) :
    ∀ phrase ∈ (chain.getD []).map Phrase.test, v.Allows phrase := by
  cases chain with
  | none => exact fun _ hmem => absurd hmem List.not_mem_nil
  | some tests => exact allows_of_mem_tests h

end Vocabulary

/-- The reader has run out of levels, and no phrase in front of the error misuses a value. -/
def IsTooDeep {α : Type} (v : Vocabulary) (result : Except Rejection α) : Prop :=
  ∃ r, result = .error r ∧ r.error.fault = .nestingTooDeep ∧ ∀ phrase ∈ r.heard, v.Allows phrase

namespace IsTooDeep

variable {v : Vocabulary} {α β : Type} {result : Except Rejection α}

theorem map (h : IsTooDeep v result) (f : α → β) : IsTooDeep v (result.map f) := by
  obtain ⟨r, rfl, hr⟩ := h
  exact ⟨r, rfl, hr⟩

theorem bind (h : IsTooDeep v result) (f : α → Except Rejection β) :
    IsTooDeep v (result >>= f) := by
  obtain ⟨r, rfl, hr⟩ := h
  exact ⟨r, rfl, hr⟩

theorem hearing (h : IsTooDeep v result) {phrases : List Phrase}
    (hphrases : ∀ phrase ∈ phrases, v.Allows phrase) : IsTooDeep v (hearing phrases result) := by
  obtain ⟨r, rfl, hfault, hheard⟩ := h
  refine ⟨⟨r.error, phrases ++ r.heard⟩, rfl, hfault, fun phrase hmem => ?_⟩
  rcases List.mem_append.1 hmem with hmem | hmem
  · exact hphrases phrase hmem
  · exact hheard phrase hmem

theorem here {pos : Position} :
    IsTooDeep v (.error ⟨⟨pos, .nestingTooDeep⟩, []⟩ : Except Rejection α) :=
  ⟨_, rfl, rfl, fun _ hmem => absurd hmem List.not_mem_nil⟩

end IsTooDeep

section Readers

variable {v : Vocabulary} {stop : Position} {tokens middle : List Token}
  {readOne : Reader Statement} {deeper : Option (Reader Statement)}

/-- A list is too deep if one of its statements is. -/
theorem readList_tooDeep {nested : Bool} {kind : TokenKind} {pos : Position}
    (hnewline : kind ≠ .mark .newline) (hsemicolon : kind ≠ .mark .semicolon)
    (hbrace : kind ≠ .mark .rightBrace) (h : IsTooDeep v (readOne (⟨kind, pos⟩ :: tokens))) :
    IsTooDeep v (readList stop readOne nested (⟨kind, pos⟩ :: tokens)) := by
  obtain ⟨r, hr, hdeep⟩ := h
  rw [readList_cons hnewline hsemicolon, if_neg fun hend => hbrace hend.2, hr]
  exact ⟨r, rfl, hdeep⟩

theorem readList_cons_tooDeep {nested : Bool} {kind : TokenKind} {pos : Position} {s : Statement}
    (hnewline : kind ≠ .mark .newline) (hsemicolon : kind ≠ .mark .semicolon)
    (hbrace : kind ≠ .mark .rightBrace) (hone : Yields (readOne (⟨kind, pos⟩ :: tokens)) s middle)
    (hs : v.Allows (.statement s)) (h : IsTooDeep v (readList stop readOne nested middle)) :
    IsTooDeep v (readList stop readOne nested (⟨kind, pos⟩ :: tokens)) := by
  obtain ⟨hshorter, hone⟩ := hone
  rw [readList_cons hnewline hsemicolon, if_neg fun hend => hbrace hend.2, hone]
  exact (h.hearing (List.forall_mem_singleton.2 hs)).map _

theorem readOptions_tooDeep {name : String} {pos pos' : Position}
    (h : IsTooDeep v (readOperand stop deeper tokens)) :
    IsTooDeep v
      (readOptions stop deeper (⟨.word name, pos⟩ :: ⟨.mark .colon, pos'⟩ :: tokens)) := by
  obtain ⟨r, hr, hdeep⟩ := h
  rw [readOptions]
  simp only [hr]
  exact ⟨r, rfl, hdeep⟩

theorem readOptions_cons_tooDeep {name : String} {pos pos' : Position} {operand : Operand}
    (hone : Yields (readOperand stop deeper tokens) operand middle)
    (hoperand : (v.resolveOperand operand).IsOk)
    (h : IsTooDeep v (readOptions stop deeper middle)) :
    IsTooDeep v
      (readOptions stop deeper (⟨.word name, pos⟩ :: ⟨.mark .colon, pos'⟩ :: tokens)) := by
  obtain ⟨hshorter, hone⟩ := hone
  rw [readOptions]
  simp only [hone]
  exact (h.hearing (Vocabulary.allows_of_mem_operand hoperand)).map _

theorem readTests_tooDeep {key : String} {pos : Position}
    (h : IsTooDeep v (readTestOperand stop deeper tokens)) :
    IsTooDeep v (readTests stop deeper (⟨.word key, pos⟩ :: tokens)) := by
  obtain ⟨r, hr, hdeep⟩ := h
  rw [readTests]
  simp only [hr]
  exact ⟨r, rfl, hdeep⟩

theorem readTests_cons_tooDeep {key : String} {pos pos' : Position} {operand : Option Operand}
    {m : Mark} {joint : Joint} (hm : m = .comma ∧ joint = .and ∨ m = .pipe ∧ joint = .or)
    (hgiven : Yields (readTestOperand stop deeper tokens) operand (⟨.mark m, pos'⟩ :: middle))
    (htest : v.Allows (.test ⟨key, operand, joint⟩))
    (h : IsTooDeep v (readTests stop deeper middle)) :
    IsTooDeep v (readTests stop deeper (⟨.word key, pos⟩ :: tokens)) := by
  obtain ⟨hshorter, hgiven⟩ := hgiven
  rw [readTests]
  rcases hm with ⟨rfl, rfl⟩ | ⟨rfl, rfl⟩
  all_goals
    simp only [hgiven]
    exact (h.hearing (List.forall_mem_singleton.2 htest)).map _

theorem readChain_tooDeep (hbracket : startsWith .rightBracket tokens = false)
    (h : IsTooDeep v (readTests stop deeper tokens)) :
    IsTooDeep v (readChain stop deeper tokens) := by
  unfold readChain
  split
  next pos rest => cases hbracket
  next => exact h.map _

theorem IsTooDeep.bind_of_yields {α β : Type} {m n : Nat}
    {result : Except Rejection (Reading Token α m)} {a : α}
    (hresult : Yields result a middle)
    {f : Reading Token α m → Except Rejection (Reading Token β n)}
    (h : ∀ hshorter, IsTooDeep v (f ⟨a, middle, hshorter⟩)) : IsTooDeep v (result >>= f) := by
  obtain ⟨hshorter, rfl⟩ := hresult
  exact h hshorter

variable {chain : Option (List Test)} {pos : Position}

/-- A conditional is too deep if its first branch is. -/
theorem readConditional_tooDeep
    (hchain : Yields (readChain stop deeper tokens) chain (⟨.mark .rightBracket, pos⟩ :: middle))
    (hallows : v.AllowsChain chain)
    (h : IsTooDeep v (withDeeper stop deeper middle (· middle))) :
    IsTooDeep v (readConditional stop deeper tokens) :=
  .bind_of_yields hchain fun _ =>
    (h.hearing (Vocabulary.allows_of_mem_chain hallows)).bind _

/-- The tests and the first branch of a conditional are read, or the conditional is too deep. -/
theorem readConditional_or {accepted : Statement} {behind : List Token} {levels : Nat}
    (hchain : Yields (readChain stop (readerBelow stop levels) tokens) chain
        (⟨.mark .rightBracket, pos⟩ :: middle) ∨
      IsTooDeep v (readChain stop (readerBelow stop levels) tokens))
    (hallows : v.AllowsChain chain)
    (hfirst : ∀ m, Yields (readStatement stop m middle) accepted behind ∨
      IsTooDeep v (readStatement stop m middle)) :
    (∃ m, levels = m + 1 ∧
      Yields (readChain stop (readerBelow stop levels) tokens) chain
        (⟨.mark .rightBracket, pos⟩ :: middle) ∧
      Yields (readStatement stop m middle) accepted behind) ∨
    IsTooDeep v (readConditional stop (readerBelow stop levels) tokens) := by
  rcases hchain with hchain | hdeep
  · cases levels with
    | zero => exact Or.inr (readConditional_tooDeep hchain hallows .here)
    | succ m =>
        rcases hfirst m with hfirst | hdeep
        · exact Or.inl ⟨m, rfl, hchain, hfirst⟩
        · exact Or.inr (readConditional_tooDeep hchain hallows hdeep)
  · exact Or.inr (hdeep.bind _)

theorem readConditional_else_tooDeep {accepted : Statement} {behind : List Token}
    (hchain : Yields (readChain stop deeper tokens) chain (⟨.mark .rightBracket, pos⟩ :: middle))
    (hallows : v.AllowsChain chain)
    (hfirst : Yields (withDeeper stop deeper middle (· middle)) accepted behind)
    (haccepted : (v.resolveStatement accepted).IsOk)
    (h : IsTooDeep v (readOtherwise stop deeper behind)) :
    IsTooDeep v (readConditional stop deeper tokens) := by
  refine .bind_of_yields hchain fun _ => .bind_of_yields (yields_hearing.2 hfirst) fun _ => ?_
  refine (h.hearing fun phrase hmem => ?_).bind _
  rcases List.mem_append.1 hmem with hmem | hmem
  · exact Vocabulary.allows_of_mem_chain hallows phrase hmem
  · rw [List.mem_singleton.1 hmem]
    exact haccepted

end Readers

mutual

theorem OperandAt.read_or {v : Vocabulary} {operand : Operand} {tokens rest : List Token}
    (h : OperandAt Statement.IsClosed operand tokens rest) (hok : (v.resolveOperand operand).IsOk)
    (stop : Position) (levels : Nat) :
    Yields (readOperand stop (readerBelow stop levels) tokens) operand rest ∨
      IsTooDeep v (readOperand stop (readerBelow stop levels) tokens) := by
  match h with
  | .word => exact Or.inl ⟨_, rfl⟩
  | .text => exact Or.inl ⟨_, rfl⟩
  | .list inside =>
      -- On the last level the list is rejected at its brace, before anything in it is heard.
      cases levels with
      | zero => exact Or.inr .here
      | succ levels =>
          rcases inside.read_or (Vocabulary.isOk_resolveOperand_list hok) stop levels .closed with
            hbody | hdeep
          · exact Or.inl (yields_map.2 ⟨_, hbody, rfl⟩)
          · exact Or.inr (hdeep.map _)

theorem BodyAt.read_or {v : Vocabulary} {body : List Statement} {nested : Bool}
    {tokens middle rest : List Token} (h : BodyAt Statement.IsClosed body tokens middle)
    (hok : (v.resolveBody body).IsOk) (stop : Position) (levels : Nat)
    (hend : ListEnd nested middle rest) :
    Yields (readList stop (readStatement stop levels) nested tokens) body rest ∨
      IsTooDeep v (readList stop (readStatement stop levels) nested tokens) := by
  match h with
  | .nil => exact Or.inl (BodyAt.nil.read stop (Nat.zero_le _) hend)
  | .newline more =>
      rw [readList]
      rcases more.read_or hok stop levels hend with hmore | hdeep
      · exact Or.inl (yields_widen.2 hmore)
      · exact Or.inr (hdeep.map _)
  | .semicolon more =>
      rw [readList]
      rcases more.read_or hok stop levels hend with hmore | hdeep
      · exact Or.inl (yields_widen.2 hmore)
      · exact Or.inr (hdeep.map _)
  | .cons one more =>
      obtain ⟨hs, hbody⟩ := Vocabulary.isOk_resolveBody_cons hok
      have hone := one.read_or hs stop levels ((more.fresh hend.fresh).precedes _)
      obtain ⟨token, tokens, rfl, hnewline, hsemicolon, hbrace⟩ := one.head
      rcases hone with hone | hdeep
      · rcases more.read_or hbody stop levels hend with hmore | hdeep
        · exact Or.inl (yields_readList_cons hnewline hsemicolon hbrace hone hmore)
        · exact Or.inr (readList_cons_tooDeep hnewline hsemicolon hbrace hone hs hdeep)
      · exact Or.inr (readList_tooDeep hnewline hsemicolon hbrace hdeep)

/-- A statement that stands at the front of the tokens is read, or it is nested too deeply. -/
theorem StatementAt.read_or {v : Vocabulary} {s : Statement} {tokens rest : List Token}
    (h : StatementAt Statement.IsClosed s tokens rest) (hok : (v.resolveStatement s).IsOk)
    (stop : Position) (levels : Nat) (hrest : s.Precedes rest) :
    Yields (readStatement stop levels tokens) s rest ∨
      IsTooDeep v (readStatement stop levels tokens) := by
  rw [readStatement_eq]
  match h with
  | .action given =>
      rcases given.read_or (Vocabulary.isOk_resolveStatement_action hok) stop levels hrest.option
        with hgiven | hdeep
      · exact Or.inl (yields_map.2 ⟨_, hgiven, rfl⟩)
      · exact Or.inr (hdeep.map _)
  | .block inside =>
      cases levels with
      | zero => exact Or.inr .here
      | succ levels =>
          rw [Vocabulary.resolveStatement] at hok
          rcases inside.read_or hok stop levels .closed with hbody | hdeep
          · exact Or.inl (yields_map.2 ⟨_, hbody, rfl⟩)
          · exact Or.inr (hdeep.map _)
  | .when chain first =>
      obtain ⟨htest, haccepted, -⟩ := Vocabulary.isOk_resolveStatement_conditional hok
      have hpipe := hrest.pipe rfl
      rcases readConditional_or (chain.read_or htest stop levels rfl) htest fun m =>
        first.read_or haccepted stop m ⟨fun _ => hpipe, hrest.option⟩ with
        ⟨m, rfl, hchain, hfirst⟩ | hdeep
      · exact Or.inl (yields_widen.2 (yields_readConditional.2 ⟨_, _, _, _, _, _, _, rfl, hchain,
          rfl, hfirst, yields_readOtherwise_none hpipe⟩))
      · exact Or.inr (hdeep.map _)
  | .whenElse chain first fit second =>
      obtain ⟨htest, haccepted, hotherwise⟩ := Vocabulary.isOk_resolveStatement_conditional hok
      rcases readConditional_or (chain.read_or htest stop levels rfl) htest fun m =>
        first.read_or haccepted stop m
          ⟨fun hopen => absurd (fit.symm.trans hopen) Bool.false_ne_true, rfl⟩ with
        ⟨m, rfl, hchain, hfirst⟩ | hdeep
      · rw [Vocabulary.resolveOtherwise] at hotherwise
        rcases second.read_or hotherwise stop m ⟨hrest.pipe, hrest.option⟩ with hsecond | hdeep
        · exact Or.inl (yields_widen.2 (yields_readConditional.2 ⟨_, _, _, _, _, _, _, rfl, hchain,
            rfl, hfirst, yields_map_widen.2 ⟨_, hsecond, rfl⟩⟩))
        · exact Or.inr ((readConditional_else_tooDeep hchain htest hfirst haccepted
            (hdeep.map _)).map _)
      · exact Or.inr (hdeep.map _)

theorem OptionsAt.read_or {v : Vocabulary} {options : List (String × Operand)}
    {tokens rest : List Token} (h : OptionsAt Statement.IsClosed options tokens rest)
    (hok : (v.resolveOptions options).IsOk) (stop : Position) (levels : Nat)
    (hrest : startsOption rest = false) :
    Yields (readOptions stop (readerBelow stop levels) tokens) options rest ∨
      IsTooDeep v (readOptions stop (readerBelow stop levels) tokens) := by
  match h with
  | .nil => exact Or.inl (yields_readOptions_nil hrest)
  | .cons one more =>
      obtain ⟨hoperand, hoptions⟩ := Vocabulary.isOk_resolveOptions_cons hok
      rcases one.read_or hoperand stop levels with hone | hdeep
      · rcases more.read_or hoptions stop levels hrest with hmore | hdeep
        · exact Or.inl (yields_readOptions_cons hone hmore)
        · exact Or.inr (readOptions_cons_tooDeep hone hoperand hdeep)
      · exact Or.inr (readOptions_tooDeep hdeep)

theorem TestOperandAt.read_or {v : Vocabulary} {operand : Option Operand}
    {tokens rest : List Token} (h : TestOperandAt Statement.IsClosed operand tokens rest)
    (hok : v.AllowsOperand operand) (stop : Position) (levels : Nat)
    (hrest : startsWith .equals rest = false) :
    Yields (readTestOperand stop (readerBelow stop levels) tokens) operand rest ∨
      IsTooDeep v (readTestOperand stop (readerBelow stop levels) tokens) := by
  match h with
  | .none => exact Or.inl (yields_readTestOperand_none hrest)
  | .some one =>
      rcases one.read_or hok stop levels with hone | hdeep
      · exact Or.inl (yields_map_widen.2 ⟨_, hone, rfl⟩)
      · exact Or.inr (hdeep.map _)

theorem TestsAt.read_or {v : Vocabulary} {tests : List Test} {tokens rest : List Token}
    (h : TestsAt Statement.IsClosed tests tokens rest) (hok : (v.resolveTests tests).IsOk)
    (stop : Position) (levels : Nat) (hrest : startsWith .rightBracket rest = true) :
    Yields (readTests stop (readerBelow stop levels) tokens) tests rest ∨
      IsTooDeep v (readTests stop (readerBelow stop levels) tokens) := by
  match h with
  | .last given =>
      obtain ⟨hoperand, -, -⟩ := Vocabulary.isOk_resolveTests_cons hok
      rcases given.read_or hoperand stop levels (startsWith_eq_false_of_ne hrest (by decide)) with
        hgiven | hdeep
      · exact Or.inl (yields_readTests_last hgiven hrest)
      · exact Or.inr (readTests_tooDeep hdeep)
  | .comma given more =>
      obtain ⟨hoperand, htest, htests⟩ := Vocabulary.isOk_resolveTests_cons hok
      rcases given.read_or hoperand stop levels rfl with hgiven | hdeep
      · rcases more.read_or htests stop levels hrest with hmore | hdeep
        · exact Or.inl (yields_readTests_comma hgiven hmore)
        · exact Or.inr (readTests_cons_tooDeep (Or.inl ⟨rfl, rfl⟩) hgiven htest hdeep)
      · exact Or.inr (readTests_tooDeep hdeep)
  | .pipe given more =>
      obtain ⟨hoperand, htest, htests⟩ := Vocabulary.isOk_resolveTests_cons hok
      rcases given.read_or hoperand stop levels rfl with hgiven | hdeep
      · rcases more.read_or htests stop levels hrest with hmore | hdeep
        · exact Or.inl (yields_readTests_pipe hgiven hmore)
        · exact Or.inr (readTests_cons_tooDeep (Or.inr ⟨rfl, rfl⟩) hgiven htest hdeep)
      · exact Or.inr (readTests_tooDeep hdeep)

theorem ChainAt.read_or {v : Vocabulary} {chain : Option (List Test)} {tokens rest : List Token}
    (h : ChainAt Statement.IsClosed chain tokens rest) (hok : v.AllowsChain chain)
    (stop : Position) (levels : Nat) (hrest : startsWith .rightBracket rest = true) :
    Yields (readChain stop (readerBelow stop levels) tokens) chain rest ∨
      IsTooDeep v (readChain stop (readerBelow stop levels) tokens) := by
  match h with
  | .none => exact Or.inl (ChainAt.none.read stop (Nat.zero_le _) hrest)
  | .some one =>
      rcases one.read_or hok stop levels hrest with hone | hdeep
      · exact Or.inl (yields_readChain_some one.startsWith_rightBracket hone)
      · exact Or.inr (readChain_tooDeep one.startsWith_rightBracket hdeep)

end

/-- A program that stands in the tokens is read, or it is nested too deeply. -/
theorem TokenStream.toProgram_or {v : Vocabulary} {p : Program} {tokens : List Token}
    (h : BodyAt Statement.IsClosed p tokens []) (hok : (v.resolveBody p).IsOk) (stop : Position) :
    (TokenStream.mk tokens stop).toProgram = .ok p ∨
      IsTooDeep v (TokenStream.mk tokens stop).toProgram := by
  rcases h.read_or hok stop maxNesting .stop with hread | hdeep
  · exact Or.inl (toProgram_eq_ok_iff.2 ⟨[], hread⟩)
  · exact Or.inr (hdeep.map _)

end WindowActions
