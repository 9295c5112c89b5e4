import Mathlib.Logic.ExistsUnique
import WindowActions.Proofs.Program.Complete

/-!
# Where second branches belong

The grammar can read a program in several ways, as a second branch can belong to any conditional
that ends in front of it. Exactly one of them gives every second branch to the innermost conditional
that can take it. It is unique since the readers find it and give one result, and it exists since a
branch can be moved inwards.
-/

namespace WindowActions

/-- The innermost conditional at the end of an open statement takes the branch behind it. -/
theorem StatementAt.attach {s otherwise : Statement} {pos : Position}
    {tokens middle behind rest : List Token} (h : StatementAt Statement.IsClosed s tokens middle)
    (hmiddle : middle = ⟨.mark .pipe, pos⟩ :: behind) (hopen : s.isOpen = true)
    (second : StatementAt Statement.IsClosed otherwise behind rest) :
    ∃ t, StatementAt Statement.IsClosed t tokens rest := by
  match s, h with
  | .conditional test accepted none, .when chain first =>
      cases haccepted : accepted.isOpen with
      | true =>
          obtain ⟨t, ht⟩ := first.attach hmiddle haccepted second
          exact ⟨_, .when chain ht⟩
      | false =>
          rw [hmiddle] at first
          exact ⟨_, .whenElse chain first haccepted second⟩
  | .conditional test accepted (some last), .whenElse chain first fit inner =>
      obtain ⟨t, ht⟩ := inner.attach hmiddle hopen second
      exact ⟨_, .whenElse chain first fit ht⟩
  | .action name options, .action given => cases hopen
  | .block body, .block inside => cases hopen

section Settle

variable {fits : Statement → Prop}

mutual

theorem OperandAt.settle {operand : Operand} {tokens rest : List Token}
    (h : OperandAt fits operand tokens rest) :
    ∃ operand', OperandAt Statement.IsClosed operand' tokens rest := by
  match h with
  | .word => exact ⟨_, .word⟩
  | .text => exact ⟨_, .text⟩
  | .list inside =>
      obtain ⟨body, hbody⟩ := inside.settle
      exact ⟨_, .list hbody⟩

/-- A reading of the tokens of a statement can be changed so that every second branch belongs to
the innermost conditional that can take it. -/
theorem StatementAt.settle {s : Statement} {tokens rest : List Token}
    (h : StatementAt fits s tokens rest) :
    ∃ t, StatementAt Statement.IsClosed t tokens rest := by
  match h with
  | .action given =>
      obtain ⟨options, hoptions⟩ := given.settle
      exact ⟨_, .action hoptions⟩
  | .block inside =>
      obtain ⟨body, hbody⟩ := inside.settle
      exact ⟨_, .block hbody⟩
  | .when chain first =>
      obtain ⟨test, htest⟩ := chain.settle
      obtain ⟨accepted, haccepted⟩ := first.settle
      exact ⟨_, .when htest haccepted⟩
  | .whenElse chain first fit second =>
      obtain ⟨test, htest⟩ := chain.settle
      obtain ⟨accepted, haccepted⟩ := first.settle
      obtain ⟨otherwise, hotherwise⟩ := second.settle
      cases hopen : accepted.isOpen with
      | true =>
          obtain ⟨t, ht⟩ := haccepted.attach rfl hopen hotherwise
          exact ⟨_, .when htest ht⟩
      | false => exact ⟨_, .whenElse htest haccepted hopen hotherwise⟩

theorem BodyAt.settle {body : List Statement} {tokens rest : List Token}
    (h : BodyAt fits body tokens rest) :
    ∃ body', BodyAt Statement.IsClosed body' tokens rest := by
  match h with
  | .nil => exact ⟨_, .nil⟩
  | .newline more =>
      obtain ⟨body, hbody⟩ := more.settle
      exact ⟨_, .newline hbody⟩
  | .semicolon more =>
      obtain ⟨body, hbody⟩ := more.settle
      exact ⟨_, .semicolon hbody⟩
  | .cons one more =>
      obtain ⟨s, hs⟩ := one.settle
      obtain ⟨body, hbody⟩ := more.settle
      exact ⟨_, .cons hs hbody⟩

theorem OptionsAt.settle {options : List (String × Operand)} {tokens rest : List Token}
    (h : OptionsAt fits options tokens rest) :
    ∃ options', OptionsAt Statement.IsClosed options' tokens rest := by
  match h with
  | .nil => exact ⟨_, .nil⟩
  | .cons one more =>
      obtain ⟨operand, hoperand⟩ := one.settle
      obtain ⟨options, hoptions⟩ := more.settle
      exact ⟨_, .cons hoperand hoptions⟩

theorem TestOperandAt.settle {operand : Option Operand} {tokens rest : List Token}
    (h : TestOperandAt fits operand tokens rest) :
    ∃ operand', TestOperandAt Statement.IsClosed operand' tokens rest := by
  match h with
  | .none => exact ⟨_, .none⟩
  | .some one =>
      obtain ⟨operand, hoperand⟩ := one.settle
      exact ⟨_, .some hoperand⟩

theorem TestsAt.settle {tests : List Test} {tokens rest : List Token}
    (h : TestsAt fits tests tokens rest) :
    ∃ tests', TestsAt Statement.IsClosed tests' tokens rest := by
  match h with
  | .last given =>
      obtain ⟨operand, hoperand⟩ := given.settle
      exact ⟨_, .last hoperand⟩
  | .comma given more =>
      obtain ⟨operand, hoperand⟩ := given.settle
      obtain ⟨tests, htests⟩ := more.settle
      exact ⟨_, .comma hoperand htests⟩
  | .pipe given more =>
      obtain ⟨operand, hoperand⟩ := given.settle
      obtain ⟨tests, htests⟩ := more.settle
      exact ⟨_, .pipe hoperand htests⟩

theorem ChainAt.settle {chain : Option (List Test)} {tokens rest : List Token}
    (h : ChainAt fits chain tokens rest) :
    ∃ chain', ChainAt Statement.IsClosed chain' tokens rest := by
  match h with
  | .none => exact ⟨_, .none⟩
  | .some one =>
      obtain ⟨tests, htests⟩ := one.settle
      exact ⟨_, .some htests⟩

end

end Settle

/-- No tokens are two programs. -/
theorem BodyAt.unique {p q : Program} {tokens : List Token}
    (hp : BodyAt Statement.IsClosed p tokens []) (hq : BodyAt Statement.IsClosed q tokens []) :
    p = q := by
  have hread := hp.read .start (Nat.le_max_left _ (bodyDepth q)) .stop
  have hread' := hq.read .start (Nat.le_max_right (bodyDepth p) _) .stop
  exact (hread.unique hread').1

/-- Tokens that can be read as a program at all are one program with second branches where they
belong. -/
theorem BodyAt.existsUnique {fits : Statement → Prop} {p : Program} {tokens : List Token}
    (h : BodyAt fits p tokens []) : ∃! q, BodyAt Statement.IsClosed q tokens [] := by
  obtain ⟨q, hq⟩ := h.settle
  exact ⟨q, hq, fun q' hq' => hq'.unique hq⟩

end WindowActions
