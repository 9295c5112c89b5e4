import Mathlib.Tactic.Choose
import WindowActions.Proofs.Program.Complete
import WindowActions.Proofs.Program.Cursor

/-!
# The parser makes progress

A function of the parser, started anywhere among the tokens and on any level, comes to an end and
has the outcome of the reader for lists of tokens (`Follows`). On its way the cursor never goes back
and never leaves the tokens, and it ends on the level where it started. The induction is the one of
the readers: on the levels that are left, and on one level on the tokens.

So every turn of a loop that does not end it takes a token, although nothing in the loops themselves
says so: the end of the program is a token that stays where it is.
-/

namespace WindowActions

namespace CursorReader

/-- A reader along the cursor has the outcome that a reader of lists of tokens has. -/
inductive Follows (stream : TokenStream) {α : Type} {n : Nat} (t : Trail) :
    Option (Except SourceError α × Trail) → Except Rejection (Reading Token α n) → Prop
  | ok {x : Reading Token α n} {t' : Trail} {between : List Cursor}
      (leads : Leads stream t t' between) (stands : Stands stream t' x.rest) :
      Follows stream t (some (.ok x.value, t')) (.ok x)
  | error {r : Rejection} {t' : Trail} {between : List Cursor}
      (leads : Leads stream t t' between) :
      Follows stream t (some (.error r.error, t')) (.error r)

section Follows

variable {α β : Type} {m n : Nat} {stream : TokenStream} {t t' : Trail} {between : List Cursor}
  {token : Token} {tokens rest : List Token} {reader : CursorReader α}
  {run : Option (Except SourceError α × Trail)} {outcome : Except Rejection (Reading Token α n)}

theorem Follows.trans (leads : Leads stream t t' between) (h : Follows stream t' run outcome) :
    Follows stream t run outcome := by
  cases h with
  | ok leads' stands => exact .ok (leads.trans leads') stands
  | error leads' => exact .error (leads.trans leads')

theorem Follows.widen (h : Follows stream t run outcome) {hn : n ≤ m} :
    Follows stream t run (outcome.map (·.widen hn)) := by
  cases h with
  | ok leads stands => exact Follows.ok (x := Reading.widen _ hn) leads stands
  | error leads => exact .error leads

/-- What is looked up in front of an error does not concern the cursor. -/
theorem Follows.hearing (h : Follows stream t run outcome) (phrases : List Phrase) :
    Follows stream t run (hearing phrases outcome) := by
  cases h with
  | ok leads stands => exact .ok leads stands
  | @error r _ _ leads => exact Follows.error (r := ⟨r.error, phrases ++ r.heard⟩) leads

theorem Follows.map (h : Follows stream t (reader.go t) outcome) (f : α → β) :
    Follows stream t ((reader >>= fun a => pure (f a)).go t) (outcome.map (·.map f)) := by
  rw [go_bind]
  generalize reader.go t = run at h
  cases h with
  | ok leads stands => exact Follows.ok (x := Reading.map f _) leads stands
  | error leads => exact .error leads

theorem Follows.map_widen (h : Follows stream t (reader.go t) outcome) (f : α → β)
    {hn : n ≤ m} :
    Follows stream t ((reader >>= fun a => pure (f a)).go t)
      (outcome.map fun r => (r.map f).widen hn) := by
  have hmap : (outcome.map fun r => (r.map f).widen hn) =
      (outcome.map (·.map f)).map (·.widen hn) := by
    cases outcome <;> rfl
  rw [hmap]
  exact (h.map f).widen

theorem Follows.bind_error {r : Rejection}
    (h : Follows stream t (reader.go t) (.error r : Except Rejection (Reading Token α n)))
    (f : α → CursorReader β) :
    Follows stream t ((reader >>= f).go t) (.error r : Except Rejection (Reading Token β m)) := by
  rw [go_bind]
  generalize reader.go t = run at h
  cases h with
  | error leads => exact .error leads

theorem Follows.bind_ok {x : Reading Token α n} (h : Follows stream t (reader.go t) (.ok x))
    {f : α → CursorReader β} {outcome : Except Rejection (Reading Token β m)}
    (hf : ∀ t', t'.now.depth = t.now.depth → Stands stream t' x.rest →
      Follows stream t' ((f x.value).go t') outcome) :
    Follows stream t ((reader >>= f).go t) outcome := by
  rw [go_bind]
  generalize reader.go t = run at h
  cases h with
  | ok leads stands => exact (hf _ leads.depth stands).trans leads

theorem Follows.bind {f : α → CursorReader β}
    {f' : Reading Token α n → Except Rejection (Reading Token β m)}
    (h : Follows stream t (reader.go t) outcome)
    (hf : ∀ x t', t'.now.depth = t.now.depth → Stands stream t' x.rest →
      Follows stream t' ((f x.value).go t') (f' x)) :
    Follows stream t ((reader >>= f).go t) (outcome >>= f') := by
  cases outcome with
  | error r => exact h.bind_error f
  | ok x => exact h.bind_ok (hf x)

section Here

variable (ht : Stands stream t tokens) (hdepth : t.now.depth ≤ maxNesting)

include ht hdepth

theorem follows_pure (a : α) (hn : tokens.length < n) :
    Follows stream t ((pure a : CursorReader α).go t) (.ok ⟨a, tokens, hn⟩) :=
  Follows.ok (x := ⟨a, tokens, hn⟩) (.refl ht hdepth) ht

theorem follows_unexpected (wanted : Expectation) :
    Follows stream t ((reject stream (.unexpected wanted) : CursorReader α).go t)
      (unexpected stream.stop wanted tokens : Except Rejection (Reading Token α n)) := by
  rw [go_reject ht]
  exact Follows.error (r := ⟨_, _⟩) (.refl ht hdepth)

end Here

theorem Follows.bump (ht : Stands stream t (token :: rest)) (hdepth : t.now.depth ≤ maxNesting)
    {f : Unit → CursorReader α} (h : Follows stream t.next ((f ()).go t.next) outcome) :
    Follows stream t ((bump stream >>= f).go t) outcome := by
  rw [go_bump_bind ht]
  exact h.trans (.next ht hdepth)

end Follows

section Readers

variable (stream : TokenStream)

/-- The parser reads an action as the reader reads a statement, on this level. -/
def FollowsAction (depth : Nat) (readOne : Reader Statement) : Prop :=
  ∀ t tokens, t.now.depth = depth → Stands stream t tokens →
    Follows stream t (stream.action.go t) (readOne tokens)

/-- There is a reader one level further in exactly if there is such a level, and the parser reads
what it reads. -/
inductive Deeper (depth : Nat) : Option (Reader Statement) → Prop
  | none (h : depth = maxNesting) : Deeper depth none
  | some (h : depth < maxNesting) {readOne : Reader Statement}
      (hone : FollowsAction stream (depth + 1) readOne) : Deeper depth (some readOne)

variable {stream} {α : Type} {n : Nat} {t : Trail} {tokens rest : List Token} {pos : Position}
  {kind : TokenKind} {readOne : Reader Statement} {deeper : Option (Reader Statement)}

theorem Deeper.limit {depth : Nat} (hdeeper : Deeper stream depth deeper)
    (hdepth : t.now.depth = depth) : t.now.depth ≤ maxNesting := by
  cases hdeeper <;> omega

theorem follows_nested {depth : Nat} (hdeeper : Deeper stream depth deeper)
    (ht : Stands stream t tokens) (hdepth : t.now.depth = depth) {reader : CursorReader α}
    {read : Reader Statement → Except Rejection (Reading Token α n)}
    (hread : ∀ readOne, depth < maxNesting → FollowsAction stream (depth + 1) readOne →
      Follows stream t.inner (reader.go t.inner) (read readOne)) :
    Follows stream t ((nested stream reader).go t)
      (withDeeper stream.stop deeper tokens read) := by
  cases hdeeper with
  | none h =>
      rw [go_nested_of_le ht (Nat.le_of_eq (hdepth.trans h).symm)]
      exact Follows.error (r := ⟨_, _⟩) (.refl ht (Nat.le_of_eq (hdepth.trans h)))
  | some h hone =>
      rw [go_nested_of_lt (hdepth ▸ h), withDeeper]
      have hinside := hread _ h hone
      generalize reader.go t.inner = run at hinside
      generalize read _ = outcome at hinside
      cases hinside with
      | ok leads stands => exact .ok leads.nested ⟨stands.drop, stands.within⟩
      | error leads => exact .error leads.nested

theorem withDeeper_map {β : Type} (stop : Position) (deeper : Option (Reader Statement))
    (tokens : List Token) (read : Reader Statement → Except Rejection α) (f : α → β) :
    withDeeper stop deeper tokens (fun readOne => (read readOne).map f) =
      (withDeeper stop deeper tokens read).map f := by
  cases deeper <;> rfl

section ListTurn

variable {isNested : Bool} {m : Mark}

theorem go_listTurn_nil (ht : Stands stream t []) :
    (stream.listTurn isNested).go t =
      (if isNested then reject stream (.unexpected .rightBrace) else pure none :
        CursorReader (Option (List Statement))).go t := by
  rw [TokenStream.listTurn, go_peek_bind ht]
  rfl

theorem go_listTurn_skip (hm : m = .newline ∨ m = .semicolon)
    (ht : Stands stream t (⟨.mark m, pos⟩ :: rest)) :
    (stream.listTurn isNested).go t = some (.ok (some []), t.next) := by
  rw [TokenStream.listTurn, go_peek_bind ht]
  rcases hm with rfl | rfl <;> exact go_bump_bind ht _

theorem go_listTurn_close (ht : Stands stream t (⟨.mark .rightBrace, pos⟩ :: rest)) :
    (stream.listTurn true).go t = some (.ok none, t.next) := by
  rw [TokenStream.listTurn, go_peek_bind ht]
  exact go_bump_bind ht _

theorem go_listTurn_action (hnewline : kind ≠ .mark .newline) (hsemicolon : kind ≠ .mark .semicolon)
    (hclose : ¬(isNested = true ∧ kind = .mark .rightBrace))
    (ht : Stands stream t (⟨kind, pos⟩ :: rest)) :
    (stream.listTurn isNested).go t =
      (stream.action >>= fun s => pure (some [s]) :
        CursorReader (Option (List Statement))).go t := by
  rw [TokenStream.listTurn, go_peek_bind ht]
  match kind with
  | .word _ | .text _ => rfl
  | .mark m =>
      cases m with
      | newline => exact absurd rfl hnewline
      | semicolon => exact absurd rfl hsemicolon
      | rightBrace =>
          cases isNested with
          | true => exact absurd ⟨rfl, rfl⟩ hclose
          | false => rfl
      | leftBrace | leftBracket | rightBracket | pipe | comma | colon | equals => rfl

end ListTurn

theorem follows_list {depth : Nat} (hone : FollowsAction stream depth readOne)
    (hlimit : depth ≤ maxNesting) (isNested : Bool) (ht : Stands stream t tokens)
    (hdepth : t.now.depth = depth) :
    Follows stream t ((stream.list isNested).go t)
      (readList stream.stop readOne isNested tokens) := by
  fun_induction readList stream.stop readOne isNested tokens generalizing t with
  | case1 hnested =>
      rw [TokenStream.list, go_bind, go_listTurn_nil ht, if_pos hnested, go_reject ht]
      exact Follows.error (r := ⟨_, _⟩) (.refl ht (hdepth ▸ hlimit))
  | case2 hnested =>
      rw [TokenStream.list, go_bind, go_listTurn_nil ht, if_neg hnested]
      exact follows_pure ht (hdepth ▸ hlimit) _ _
  | case3 pos rest ih =>
      rw [TokenStream.list, go_bind, go_listTurn_skip (.inl rfl) ht]
      simp only [List.nil_append, bind_pure]
      exact ((ih ht.next hdepth).trans (.next ht (hdepth ▸ hlimit))).widen
  | case4 pos rest ih =>
      rw [TokenStream.list, go_bind, go_listTurn_skip (.inr rfl) ht]
      simp only [List.nil_append, bind_pure]
      exact ((ih ht.next hdepth).trans (.next ht (hdepth ▸ hlimit))).widen
  | case5 token rest hnewline hsemicolon hclose =>
      obtain ⟨hnested, hbrace⟩ := hclose
      obtain ⟨kind, pos⟩ := token
      obtain rfl : kind = .mark .rightBrace := hbrace
      rw [hnested, TokenStream.list, go_bind, go_listTurn_close ht]
      exact (follows_pure ht.next (hdepth ▸ hlimit) _ _).trans (.next ht (hdepth ▸ hlimit))
  | case6 token rest hnewline hsemicolon hclose e he =>
      obtain ⟨kind, pos⟩ := token
      rw [TokenStream.list, go_bind,
        go_listTurn_action (fun hk => hnewline pos (congrArg (Token.mk · pos) hk))
          (fun hk => hsemicolon pos (congrArg (Token.mk · pos) hk)) hclose ht,
        ← go_bind, bind_assoc]
      exact (he ▸ hone t _ hdepth ht).bind_error _
  | case7 token rest hnewline hsemicolon hclose one hone' hshorter ih =>
      obtain ⟨kind, pos⟩ := token
      rw [TokenStream.list, go_bind,
        go_listTurn_action (fun hk => hnewline pos (congrArg (Token.mk · pos) hk))
          (fun hk => hsemicolon pos (congrArg (Token.mk · pos) hk)) hclose ht,
        ← go_bind, bind_assoc]
      simp only [pure_bind]
      refine (hone' ▸ hone t _ hdepth ht).bind_ok fun t' hdepth' ht' => ?_
      exact ((ih ht' (hdepth'.trans hdepth)).hearing _).map_widen _

section Level

variable {depth : Nat} (hdeeper : Deeper stream depth deeper) (ht : Stands stream t tokens)
  (hdepth : t.now.depth = depth)

include hdeeper ht hdepth

theorem follows_nested_list :
    Follows stream t ((nested stream (stream.list true)).go t)
      (withDeeper stream.stop deeper tokens fun readOne =>
        readList stream.stop readOne true tokens) :=
  follows_nested hdeeper ht hdepth fun _ hlt hone =>
    follows_list hone hlt true ⟨ht.drop, ht.within⟩ (congrArg (· + 1) hdepth)

theorem follows_nested_action :
    Follows stream t ((nested stream stream.action).go t)
      (withDeeper stream.stop deeper tokens fun readOne => readOne tokens) :=
  follows_nested hdeeper ht hdepth fun _ _ hone =>
    hone _ _ (congrArg (· + 1) hdepth) ⟨ht.drop, ht.within⟩

theorem follows_value :
    Follows stream t (stream.value.go t) (readOperand stream.stop deeper tokens) := by
  have hlimit := hdeeper.limit hdepth
  rw [TokenStream.value, go_peek_bind ht]
  match tokens with
  | [] => exact follows_unexpected ht hlimit _
  | ⟨.word chars, pos⟩ :: rest | ⟨.text chars, pos⟩ :: rest =>
      exact .bump ht hlimit (follows_pure ht.next hlimit _ _)
  | ⟨.mark m, pos⟩ :: rest =>
      match m with
      | .leftBrace =>
          rw [readOperand, withDeeper_map]
          exact .bump ht hlimit ((follows_nested_list hdeeper ht.next hdepth).map _)
      | .rightBrace | .leftBracket | .rightBracket | .pipe | .comma | .semicolon | .colon
      | .equals | .newline => exact follows_unexpected ht hlimit _

theorem follows_testOperand :
    Follows stream t (stream.testOperand.go t)
      (readTestOperand stream.stop deeper tokens) := by
  have hlimit := hdeeper.limit hdepth
  rw [TokenStream.testOperand, go_peek_bind ht]
  match tokens with
  | [] => exact follows_pure ht hlimit _ _
  | ⟨.word _, pos⟩ :: rest | ⟨.text _, pos⟩ :: rest => exact follows_pure ht hlimit _ _
  | ⟨.mark m, pos⟩ :: rest =>
      match m with
      | .equals => exact .bump ht hlimit ((follows_value hdeeper ht.next hdepth).map_widen _)
      | .leftBrace | .rightBrace | .leftBracket | .rightBracket | .pipe | .comma | .semicolon
      | .colon | .newline => exact follows_pure ht hlimit _ _

end Level

section Turns

variable {pos' : Position} {name key : String} {operand : Option Operand}

theorem go_word (ht : Stands stream t (⟨.word name, pos⟩ :: rest)) :
    (word stream).go t = some (.ok name, t.next) := by
  rw [word, go_peek_bind ht]
  exact go_bump_bind ht _

theorem go_word_of_ne (h : ∀ key pos rest, tokens = ⟨.word key, pos⟩ :: rest → False)
    (ht : Stands stream t tokens) :
    (word stream).go t = (reject stream (.unexpected .name) : CursorReader String).go t := by
  rw [word, go_peek_bind ht]
  match tokens with
  | [] => rfl
  | ⟨.word key, pos⟩ :: rest => exact absurd rfl (h key pos rest)
  | ⟨.text _, _⟩ :: _ | ⟨.mark _, _⟩ :: _ => rfl

theorem go_optionsTurn_option
    (ht : Stands stream t (⟨.word name, pos⟩ :: ⟨.mark .colon, pos'⟩ :: rest)) :
    stream.optionsTurn.go t =
      (stream.value >>= fun operand => pure (some (name, operand)) :
        CursorReader (Option (String × Operand))).go t.next.next := by
  rw [TokenStream.optionsTurn, go_peek_bind ht, go_peekBehind_bind ht]
  show (word stream >>= _ : CursorReader (Option (String × Operand))).go t = _
  rw [go_bind, go_word ht]
  exact go_bump_bind ht.next _

theorem go_optionsTurn_end
    (h : ∀ name pos pos' rest, tokens = ⟨.word name, pos⟩ :: ⟨.mark .colon, pos'⟩ :: rest → False)
    (ht : Stands stream t tokens) : stream.optionsTurn.go t = some (.ok none, t) := by
  rw [TokenStream.optionsTurn, go_peek_bind ht, go_peekBehind_bind ht]
  match tokens with
  | [] => rfl
  | [⟨.word _, _⟩] | ⟨.text _, _⟩ :: _ | ⟨.mark _, _⟩ :: _ => rfl
  | ⟨.word _, _⟩ :: ⟨.word _, _⟩ :: _ | ⟨.word _, _⟩ :: ⟨.text _, _⟩ :: _ => rfl
  | ⟨.word _, _⟩ :: ⟨.mark m, _⟩ :: _ =>
      match m with
      | .colon => exact absurd rfl (h _ _ _ _)
      | .leftBrace | .rightBrace | .leftBracket | .rightBracket | .pipe | .comma | .semicolon
      | .equals | .newline => rfl

theorem go_joined_comma (ht : Stands stream t (⟨.mark .comma, pos⟩ :: rest)) :
    (joined stream key operand).go t = some (.ok (⟨key, operand, .and⟩, true), t.next) := by
  rw [joined, go_peek_bind ht]
  exact go_bump_bind ht _

theorem go_joined_pipe (ht : Stands stream t (⟨.mark .pipe, pos⟩ :: rest)) :
    (joined stream key operand).go t = some (.ok (⟨key, operand, .or⟩, true), t.next) := by
  rw [joined, go_peek_bind ht]
  exact go_bump_bind ht _

theorem go_joined_end (hcomma : ∀ pos rest, tokens = ⟨.mark .comma, pos⟩ :: rest → False)
    (hpipe : ∀ pos rest, tokens = ⟨.mark .pipe, pos⟩ :: rest → False)
    (ht : Stands stream t tokens) :
    (joined stream key operand).go t = some (.ok (⟨key, operand, .or⟩, false), t) := by
  rw [joined, go_peek_bind ht]
  match tokens with
  | [] => rfl
  | ⟨.word _, _⟩ :: _ | ⟨.text _, _⟩ :: _ => rfl
  | ⟨.mark m, _⟩ :: _ =>
      match m with
      | .comma => exact absurd rfl (hcomma _ _)
      | .pipe => exact absurd rfl (hpipe _ _)
      | .leftBrace | .rightBrace | .leftBracket | .rightBracket | .semicolon | .colon
      | .equals | .newline => rfl

/-- Behind a key, one turn of the loop is over once it is known whether another one follows. -/
theorem go_tests_word (ht : Stands stream t (⟨.word key, pos⟩ :: rest)) :
    stream.tests.go t =
      (stream.testOperand >>= fun operand => joined stream key operand >>= fun turn =>
        if turn.2 = true then stream.tests >>= fun more => pure (turn.1 :: more)
        else pure [turn.1] : CursorReader (List Test)).go t.next := by
  conv => lhs; rw [TokenStream.tests, TokenStream.testsTurn]
  simp only [bind_assoc]
  conv => lhs; rw [go_bind, go_word ht]

/-- The loop goes on behind a comma or a bar, and only these are taken. -/
theorem exists_follows_joined (key : String) (operand : Option Operand) (tokens : List Token) :
    ∃ x : Reading Token (Test × Bool) (tokens.length + 1), ∀ t, Stands stream t tokens →
      t.now.depth ≤ maxNesting → Follows stream t ((joined stream key operand).go t) (.ok x) := by
  by_cases hcomma : ∃ pos rest, tokens = ⟨.mark .comma, pos⟩ :: rest
  · obtain ⟨pos, rest, rfl⟩ := hcomma
    refine ⟨⟨(⟨key, operand, .and⟩, true), rest, Nat.lt_succ_of_lt (Nat.lt_succ_self _)⟩,
      fun t ht hlimit => ?_⟩
    rw [go_joined_comma ht]
    exact Follows.ok (x := ⟨_, rest, _⟩) (.next ht hlimit) ht.next
  by_cases hpipe : ∃ pos rest, tokens = ⟨.mark .pipe, pos⟩ :: rest
  · obtain ⟨pos, rest, rfl⟩ := hpipe
    refine ⟨⟨(⟨key, operand, .or⟩, true), rest, Nat.lt_succ_of_lt (Nat.lt_succ_self _)⟩,
      fun t ht hlimit => ?_⟩
    rw [go_joined_pipe ht]
    exact Follows.ok (x := ⟨_, rest, _⟩) (.next ht hlimit) ht.next
  · refine ⟨⟨(⟨key, operand, .or⟩, false), tokens, Nat.lt_succ_self _⟩, fun t ht hlimit => ?_⟩
    rw [go_joined_end (fun pos rest h => hcomma ⟨pos, rest, h⟩)
      (fun pos rest h => hpipe ⟨pos, rest, h⟩) ht]
    exact Follows.ok (x := ⟨_, tokens, _⟩) (.refl ht hlimit) ht

end Turns

section Level

variable {depth : Nat} (hdeeper : Deeper stream depth deeper) (ht : Stands stream t tokens)
  (hdepth : t.now.depth = depth)

include hdeeper ht hdepth

theorem follows_options :
    Follows stream t (stream.options.go t) (readOptions stream.stop deeper tokens) := by
  fun_induction readOptions stream.stop deeper tokens generalizing t with
  | case1 name pos pos' tokens e he =>
      have hlimit := hdeeper.limit hdepth
      rw [TokenStream.options, go_bind, go_optionsTurn_option ht, ← go_bind, bind_assoc]
      refine .trans (.trans (.next ht hlimit) (.next ht.next hlimit)) ?_
      exact (he ▸ follows_value hdeeper ht.next.next hdepth).bind_error _
  | case2 name pos pos' tokens operand hone hshorter ih =>
      have hlimit := hdeeper.limit hdepth
      rw [TokenStream.options, go_bind, go_optionsTurn_option ht, ← go_bind, bind_assoc]
      simp only [pure_bind]
      refine .trans (.trans (.next ht hlimit) (.next ht.next hlimit)) ?_
      refine (hone ▸ follows_value hdeeper ht.next.next hdepth).bind_ok fun t' hdepth' ht' => ?_
      exact ((ih ht' (hdepth'.trans hdepth)).hearing _).map_widen _
  | case3 tokens hnone =>
      rw [TokenStream.options, go_bind, go_optionsTurn_end hnone ht]
      exact follows_pure ht (hdeeper.limit hdepth) _ _

theorem follows_tests :
    Follows stream t (stream.tests.go t) (readTests stream.stop deeper tokens) := by
  have hlimit {t : Trail} (hdepth : t.now.depth = depth) := hdeeper.limit hdepth
  fun_induction readTests stream.stop deeper tokens generalizing t with
  | case1 key pos tokens e he =>
      rw [go_tests_word ht]
      refine .trans (.next ht (hlimit hdepth)) ?_
      exact (he ▸ follows_testOperand hdeeper ht.next hdepth).bind_error _
  | case2 key pos tokens operand hgiven hshorter pos' behind hbehind hshorter' test =>
      rename_i ih
      rw [go_tests_word ht]
      refine .trans (.next ht (hlimit hdepth)) ?_
      refine (hgiven ▸ follows_testOperand hdeeper ht.next hdepth).bind_ok
        fun t' hdepth' ht' => ?_
      have hdepth' := hdepth'.trans hdepth
      have ht' := hbehind ▸ ht'
      rw [go_bind, go_joined_comma ht']
      refine .trans (.next ht' (hlimit hdepth')) ?_
      exact ((ih ht'.next hdepth').hearing _).map_widen _
  | case3 key pos tokens operand hgiven hshorter pos' behind hbehind hshorter' test =>
      rename_i ih
      rw [go_tests_word ht]
      refine .trans (.next ht (hlimit hdepth)) ?_
      refine (hgiven ▸ follows_testOperand hdeeper ht.next hdepth).bind_ok
        fun t' hdepth' ht' => ?_
      have hdepth' := hdepth'.trans hdepth
      have ht' := hbehind ▸ ht'
      rw [go_bind, go_joined_pipe ht']
      refine .trans (.next ht' (hlimit hdepth')) ?_
      exact ((ih ht'.next hdepth').hearing _).map_widen _
  | case4 key pos tokens operand hgiven hshorter hcomma hpipe =>
      rw [go_tests_word ht]
      refine .trans (.next ht (hlimit hdepth)) ?_
      refine (hgiven ▸ follows_testOperand hdeeper ht.next hdepth).bind_ok
        fun t' hdepth' ht' => ?_
      rw [go_bind, go_joined_end hcomma hpipe ht']
      exact follows_pure ht' (hlimit (hdepth'.trans hdepth)) _ _
  | case5 tokens hnone =>
      rw [TokenStream.tests, TokenStream.testsTurn, bind_assoc, go_bind, go_word_of_ne hnone ht,
        go_reject ht]
      exact Follows.error (r := ⟨_, _⟩) (.refl ht (hlimit hdepth))

theorem follows_chain :
    Follows stream t (stream.chain.go t) (readChain stream.stop deeper tokens) := by
  have hlimit := hdeeper.limit hdepth
  rw [TokenStream.chain, go_peek_bind ht]
  match tokens with
  | [] => exact (follows_tests hdeeper ht hdepth).map_widen _
  | ⟨.word _, pos⟩ :: rest | ⟨.text _, pos⟩ :: rest =>
      exact (follows_tests hdeeper ht hdepth).map_widen _
  | ⟨.mark m, pos⟩ :: rest =>
      match m with
      | .rightBracket => exact follows_pure ht hlimit _ _
      | .leftBrace | .rightBrace | .leftBracket | .equals | .pipe | .comma | .semicolon
      | .colon | .newline => exact (follows_tests hdeeper ht hdepth).map_widen _

theorem follows_otherwise :
    Follows stream t (stream.otherwise.go t) (readOtherwise stream.stop deeper tokens) := by
  have hlimit := hdeeper.limit hdepth
  rw [TokenStream.otherwise, go_peek_bind ht]
  match tokens with
  | [] => exact follows_pure ht hlimit _ _
  | ⟨.word _, pos⟩ :: rest | ⟨.text _, pos⟩ :: rest => exact follows_pure ht hlimit _ _
  | ⟨.mark m, pos⟩ :: rest =>
      match m with
      | .pipe =>
          rw [readOtherwise, withDeeper_map]
          exact .bump ht hlimit ((follows_nested_action hdeeper ht.next hdepth).map_widen _)
      | .leftBrace | .rightBrace | .leftBracket | .rightBracket | .equals | .comma | .semicolon
      | .colon | .newline => exact follows_pure ht hlimit _ _

end Level

theorem go_expect {m : Mark} {wanted : Expectation}
    (ht : Stands stream t (⟨.mark m, pos⟩ :: rest)) :
    (expect stream m wanted).go t = some (.ok (), t.next) := by
  rw [expect, go_peek_bind ht]
  simp only [List.head?_cons, Option.map_some, if_true]
  exact go_bump ht

theorem go_expect_of_ne {m : Mark} {wanted : Expectation}
    (h : ∀ pos rest, tokens = ⟨.mark m, pos⟩ :: rest → False) (ht : Stands stream t tokens) :
    (expect stream m wanted).go t =
      (reject stream (.unexpected wanted) : CursorReader Unit).go t := by
  rw [expect, go_peek_bind ht, if_neg]
  intro hhead
  obtain ⟨token, htoken, hkind⟩ := Option.map_eq_some_iff.1 hhead
  obtain ⟨rest, rfl⟩ := List.head?_eq_some_iff.1 htoken
  exact h token.pos rest (by rw [← hkind])

theorem follows_rightBracket (ht : Stands stream t tokens) (hlimit : t.now.depth ≤ maxNesting) :
    Follows stream t ((expect stream .rightBracket .rightBracket).go t)
      (readRightBracket stream.stop tokens) := by
  rw [readRightBracket.eq_def]
  split
  case h_1 pos rest =>
      rw [go_expect ht]
      exact Follows.ok (x := ⟨(), rest, _⟩) (.next ht hlimit) ht.next
  case h_2 hne =>
      rw [go_expect_of_ne hne ht]
      exact follows_unexpected ht hlimit _

theorem follows_filter {depth : Nat} (hdeeper : Deeper stream depth deeper)
    (ht : Stands stream t (⟨.mark .leftBracket, pos⟩ :: rest)) (hdepth : t.now.depth = depth) :
    Follows stream t (stream.filter.go t) (readConditional stream.stop deeper rest) := by
  rw [TokenStream.filter, go_bind, go_expect ht]
  refine .trans (.next ht (hdeeper.limit hdepth)) ?_
  refine (follows_chain hdeeper ht.next hdepth).bind fun chain t₁ hdepth₁ ht₁ => ?_
  have hdepth₁ := hdepth₁.trans hdepth
  refine ((follows_rightBracket ht₁ (hdeeper.limit hdepth₁)).hearing _).bind
    fun _ t₂ hdepth₂ ht₂ => ?_
  have hdepth₂ := hdepth₂.trans hdepth₁
  refine ((follows_nested_action hdeeper ht₂ hdepth₂).hearing _).bind
    fun accepted t₃ hdepth₃ ht₃ => ?_
  have hdepth₃ := hdepth₃.trans hdepth₂
  refine ((follows_otherwise hdeeper ht₃ hdepth₃).hearing _).bind
    fun otherwise t₄ hdepth₄ ht₄ => ?_
  exact follows_pure ht₄ (hdeeper.limit (hdepth₄.trans hdepth₃)) _ _

theorem follows_action {depth : Nat} (hdeeper : Deeper stream depth deeper) :
    FollowsAction stream depth (readStatementWith stream.stop deeper) := by
  intro t tokens hdepth ht
  rw [TokenStream.action, go_peek_bind ht]
  match tokens with
  | [] => exact follows_unexpected ht (hdeeper.limit hdepth) _
  | ⟨.word name, pos⟩ :: rest =>
      show Follows stream t ((word stream >>= _ : CursorReader Statement).go t) _
      rw [go_bind, go_word ht]
      exact ((follows_options hdeeper ht.next hdepth).map _).trans
        (.next ht (hdeeper.limit hdepth))
  | ⟨.text _, pos⟩ :: rest => exact follows_unexpected ht (hdeeper.limit hdepth) _
  | ⟨.mark m, pos⟩ :: rest =>
      match m with
      | .leftBracket => exact (follows_filter hdeeper ht hdepth).widen
      | .leftBrace =>
          rw [readStatementWith, withDeeper_map]
          exact .bump ht (hdeeper.limit hdepth)
            ((follows_nested_list hdeeper ht.next hdepth).map _)
      | .rightBrace | .rightBracket | .equals | .pipe | .comma | .semicolon | .colon
      | .newline => exact follows_unexpected ht (hdeeper.limit hdepth) _

/-- The recursion of the parser is the one of the readers, along the levels that are left. -/
theorem deeper_readerBelow {depth levels : Nat} (h : depth + levels = maxNesting) :
    Deeper stream depth (readerBelow stream.stop levels) := by
  induction levels generalizing depth with
  | zero => exact .none h
  | succ levels ih =>
      have hinner : depth + 1 + levels = maxNesting := by omega
      refine .some (by omega) ?_
      rw [readStatement_eq]
      exact follows_action (ih hinner)

end Readers

section Proceeds

variable (stream : TokenStream)

/-- From a cursor, a function of the parser comes to an end. It never goes back, never leaves the
tokens and is never nested too deeply, and with or without success it ends on the level where it
started. If it gives back something that `consumes`, it has taken a token. -/
def Proceeds {α : Type} (reader : CursorReader α) (c : Cursor) (consumes : α → Prop) : Prop :=
  ∃ result t' between, reader.go (.from c) = some (result, t') ∧
    Leads stream (.from c) t' between ∧
    ∀ a, result = .ok a → consumes a → c.index < t'.now.index

variable {stream} {α : Type} {n depth : Nat} {c : Cursor} {tokens : List Token} {t : Trail}
  {consumes : α → Prop} {reader : CursorReader α} {readOne : Reader Statement}
  {deeper : Option (Reader Statement)}

theorem Follows.proceeds {outcome : Except Rejection (Reading Token α n)}
    (h : Follows stream (.from c) (reader.go (.from c)) outcome)
    (ht : Stands stream (.from c) tokens)
    (hconsumes : ∀ x, outcome = .ok x → consumes x.value → x.rest.length < tokens.length) :
    Proceeds stream reader c consumes := by
  generalize hrun : reader.go (.from c) = run at h
  cases h with
  | error leads => exact ⟨_, _, _, hrun, leads, by simp⟩
  | @ok x t' between leads stands =>
      refine ⟨_, t', between, hrun, leads, ?_⟩
      rintro _ ⟨⟩ ha
      have hshorter := hconsumes x rfl ha
      have hlength : tokens.length = stream.tokens.length - c.index := ht.length
      rw [stands.length, hlength] at hshorter
      omega

/-- What is left is shorter by the type of what has been read. -/
theorem Follows.proceeds_reader {outcome : Except Rejection (Reading Token α tokens.length)}
    (h : Follows stream (.from c) (reader.go (.from c)) outcome)
    (ht : Stands stream (.from c) tokens) : Proceeds stream reader c fun _ => True :=
  h.proceeds ht fun x _ _ => x.shorter

theorem Proceeds.of_reject (ht : Stands stream (.from c) tokens) (hlimit : c.depth ≤ maxNesting)
    (fault : Option TokenKind → SourceFault)
    (h : reader.go (.from c) = (reject stream fault : CursorReader α).go (.from c)) :
    Proceeds stream reader c consumes :=
  ⟨_, _, _, h.trans (go_reject ht fault), .refl ht hlimit, by simp⟩

theorem Proceeds.of_end (ht : Stands stream (.from c) tokens) (hlimit : c.depth ≤ maxNesting)
    {a : α} (ha : ¬consumes a) (h : reader.go (.from c) = some (.ok a, .from c)) :
    Proceeds stream reader c consumes := by
  refine ⟨_, _, _, h, .refl ht hlimit, ?_⟩
  rintro _ ⟨⟩ hconsumes
  exact absurd hconsumes ha

variable (ht : Stands stream (.from c) tokens) (hdepth : c.depth = depth)

include ht hdepth

theorem proceeds_listTurn (hone : FollowsAction stream depth readOne) (hlimit : depth ≤ maxNesting)
    (isNested : Bool) : Proceeds stream (stream.listTurn isNested) c (·.isSome = true) := by
  have hlimit : c.depth ≤ maxNesting := hdepth ▸ hlimit
  match tokens with
  | [] =>
      cases isNested with
      | true => exact .of_reject ht hlimit _ (go_listTurn_nil ht)
      | false => exact .of_end ht hlimit (by simp) (go_listTurn_nil ht)
  | ⟨kind, pos⟩ :: rest =>
      by_cases hskip : kind = .mark .newline ∨ kind = .mark .semicolon
      · obtain ⟨m, hm, rfl⟩ : ∃ m, (m = .newline ∨ m = .semicolon) ∧ kind = .mark m := by
          rcases hskip with rfl | rfl
          · exact ⟨_, .inl rfl, rfl⟩
          · exact ⟨_, .inr rfl, rfl⟩
        refine ⟨_, _, _, go_listTurn_skip hm ht, .next ht hlimit, fun _ _ _ => ?_⟩
        exact Nat.lt_succ_self _
      by_cases hclose : isNested = true ∧ kind = .mark .rightBrace
      · obtain ⟨rfl, rfl⟩ := hclose
        refine ⟨_, _, _, go_listTurn_close ht, .next ht hlimit, fun _ _ _ => ?_⟩
        exact Nat.lt_succ_self _
      · have haction := (hone _ _ hdepth ht).map fun s => some [s]
        rw [← go_listTurn_action (fun h => hskip (.inl h)) (fun h => hskip (.inr h)) hclose ht]
          at haction
        exact haction.proceeds ht fun x _ _ => x.shorter

theorem proceeds_filter (hdeeper : Deeper stream depth deeper) :
    Proceeds stream stream.filter c fun _ => True := by
  have hlimit : c.depth ≤ maxNesting := hdeeper.limit (t := .from c) hdepth
  by_cases hbracket : ∃ pos rest, tokens = ⟨.mark .leftBracket, pos⟩ :: rest
  · obtain ⟨pos, rest, rfl⟩ := hbracket
    exact (follows_filter hdeeper ht hdepth).proceeds ht fun x _ _ => Nat.lt_succ_of_lt x.shorter
  · have hne : ∀ pos rest, tokens = ⟨.mark .leftBracket, pos⟩ :: rest → False :=
      fun pos rest htokens => hbracket ⟨pos, rest, htokens⟩
    refine .of_reject ht hlimit (.unexpected .action) ?_
    rw [TokenStream.filter, go_bind, go_expect_of_ne hne ht, go_reject ht, go_reject ht]

theorem proceeds_optionsTurn (hdeeper : Deeper stream depth deeper) :
    Proceeds stream stream.optionsTurn c (·.isSome = true) := by
  have hlimit : c.depth ≤ maxNesting := hdeeper.limit (t := .from c) hdepth
  by_cases hoption : ∃ name pos pos' rest,
      tokens = ⟨.word name, pos⟩ :: ⟨.mark .colon, pos'⟩ :: rest
  · obtain ⟨name, pos, pos', rest, rfl⟩ := hoption
    have hvalue := (follows_value hdeeper ht.next.next hdepth).map fun operand =>
      some (name, operand)
    rw [← go_optionsTurn_option ht] at hvalue
    refine (hvalue.trans (.trans (.next ht hlimit) (.next ht.next hlimit))).proceeds ht
      fun x _ _ => ?_
    exact Nat.lt_succ_of_lt (Nat.lt_succ_of_lt x.shorter)
  · have hne : ∀ name pos pos' rest,
        tokens = ⟨.word name, pos⟩ :: ⟨.mark .colon, pos'⟩ :: rest → False :=
      fun name pos pos' rest htokens => hoption ⟨name, pos, pos', rest, htokens⟩
    exact .of_end ht hlimit (by simp) (go_optionsTurn_end hne ht)

theorem proceeds_testsTurn (hdeeper : Deeper stream depth deeper) :
    Proceeds stream stream.testsTurn c fun _ => True := by
  have hlimit : c.depth ≤ maxNesting := hdeeper.limit (t := .from c) hdepth
  by_cases hword : ∃ key pos rest, tokens = ⟨.word key, pos⟩ :: rest
  · obtain ⟨key, pos, rest, rfl⟩ := hword
    have hturn : stream.testsTurn.go (.from c) =
        (stream.testOperand >>= joined stream key :
          CursorReader (Test × Bool)).go (Trail.from c).next := by
      rw [TokenStream.testsTurn, go_bind, go_word ht]
    choose readJoined hjoined using exists_follows_joined key
    have htest := (follows_testOperand hdeeper ht.next hdepth).bind fun x t' hdepth' ht' =>
      show Follows stream t' _ (.ok ((readJoined x.value x.rest).widen x.shorter)) from
        (hjoined x.value x.rest t' ht' (hdepth' ▸ hlimit)).widen
    rw [← hturn] at htest
    exact (htest.trans (.next ht hlimit)).proceeds_reader ht
  · have hne : ∀ key pos rest, tokens = ⟨.word key, pos⟩ :: rest → False :=
      fun key pos rest htokens => hword ⟨key, pos, rest, htokens⟩
    refine .of_reject ht hlimit (.unexpected .name) ?_
    rw [TokenStream.testsTurn, go_bind, go_word_of_ne hne ht, go_reject ht, go_reject ht]

end Proceeds

theorem rest_eq_nil_of_readList {stop : Position} {levels : Nat} {tokens : List Token}
    {x : Reading Token (List Statement) (tokens.length + 1)}
    (h : readList stop (readStatement stop levels) false tokens = .ok x) : x.rest = [] := by
  obtain ⟨value, rest, hshorter⟩ := x
  obtain ⟨behind, -, hend, -⟩ := readList_sound (readStatement_sound _ _) ⟨hshorter, h⟩
  cases hend
  rfl

/-- A list that is not nested ends with the last token. -/
theorem index_eq_of_follows_list {stream : TokenStream} {c : Cursor} {levels : Nat}
    {tokens : List Token} {statements : List Statement} {t : Trail}
    (h : Follows stream (.from c) ((stream.list false).go (.from c))
      (readList stream.stop (readStatement stream.stop levels) false tokens))
    (hrun : (stream.list false).go (.from c) = some (.ok statements, t)) :
    t.now.index = stream.tokens.length := by
  rw [hrun] at h
  generalize houtcome : readList stream.stop (readStatement stream.stop levels) false tokens =
    outcome at h
  cases h with
  | ok leads stands =>
      have hlength := stands.length
      rw [rest_eq_nil_of_readList houtcome, List.length_nil] at hlength
      have hwithin := stands.within
      omega

/-- From the first token, the parser reads the program that the readers read. -/
theorem exists_go_list (stream : TokenStream) :
    ∃ t, (stream.list false).go (.from ⟨0, 0⟩) =
      some (stream.toProgram.mapError (·.error), t) := by
  have hone : FollowsAction stream 0 (readStatement stream.stop maxNesting) := by
    rw [readStatement_eq]
    exact follows_action (deeper_readerBelow (Nat.zero_add _))
  have ht : Stands stream (.from ⟨0, 0⟩) stream.tokens := ⟨rfl, Nat.zero_le _⟩
  have hlist := follows_list hone (Nat.zero_le _) false ht rfl
  rw [TokenStream.toProgram]
  generalize (stream.list false).go (.from ⟨0, 0⟩) = run at hlist
  generalize readList stream.stop (readStatement stream.stop maxNesting) false stream.tokens =
    outcome at hlist
  cases hlist with
  | ok leads stands => exact ⟨_, rfl⟩
  | error leads => exact ⟨_, rfl⟩

/-- The parser makes progress. From any place among the tokens, the end of the program included, and
on any level, each of its functions comes to an end. On the way the cursor never goes back and never
leaves the tokens; the level is never further out than at first and never beyond the limit, and in
the end it is the same as at first, also after a failure. Actions, filters, tests and values take a
token, and so does every turn of a loop after which the loop goes on. The recursion is the one of
the readers, along the levels that are left, and a list that is not nested ends with the last token.
So the parser comes to an end, with the program that the readers read. -/
theorem parser_progress (stream : TokenStream) (c : Cursor)
    (hindex : c.index ≤ stream.tokens.length) (hlimit : c.depth ≤ maxNesting) :
    (∀ isNested, Proceeds stream (stream.list isNested) c fun _ => False) ∧
    Proceeds stream stream.action c (fun _ => True) ∧
    Proceeds stream stream.options c (fun _ => False) ∧
    Proceeds stream stream.filter c (fun _ => True) ∧
    Proceeds stream stream.tests c (fun _ => True) ∧
    Proceeds stream stream.value c (fun _ => True) ∧
    (∀ isNested, Proceeds stream (stream.listTurn isNested) c (·.isSome = true)) ∧
    Proceeds stream stream.optionsTurn c (·.isSome = true) ∧
    Proceeds stream stream.testsTurn c (fun _ => True) ∧
    Follows stream (.from c) (stream.action.go (.from c))
      (readStatement stream.stop (maxNesting - c.depth) (stream.tokens.drop c.index)) ∧
    (∀ statements t, (stream.list false).go (.from c) = some (.ok statements, t) →
      t.now.index = stream.tokens.length) ∧
    ∃ t, (stream.list false).go (.from ⟨0, 0⟩) =
      some (stream.toProgram.mapError (·.error), t) := by
  have ht : Stands stream (.from c) (stream.tokens.drop c.index) := ⟨rfl, hindex⟩
  have hdeeper : Deeper stream c.depth (readerBelow stream.stop (maxNesting - c.depth)) :=
    deeper_readerBelow (by omega)
  have hone : FollowsAction stream c.depth (readStatement stream.stop (maxNesting - c.depth)) := by
    rw [readStatement_eq]
    exact follows_action hdeeper
  have hlist (isNested : Bool) := follows_list hone hlimit isNested ht rfl
  have hoptions := follows_options hdeeper ht rfl
  have haction := hone (.from c) _ rfl ht
  refine ⟨fun isNested => (hlist isNested).proceeds ht (fun _ _ h => h.elim),
    haction.proceeds_reader ht, hoptions.proceeds ht (fun _ _ h => h.elim),
    proceeds_filter ht rfl hdeeper, (follows_tests hdeeper ht rfl).proceeds_reader ht,
    (follows_value hdeeper ht rfl).proceeds_reader ht, proceeds_listTurn ht rfl hone hlimit,
    proceeds_optionsTurn ht rfl hdeeper, proceeds_testsTurn ht rfl hdeeper, haction,
    fun _ _ => index_eq_of_follows_list (hlist false), exists_go_list stream⟩

/-- One level is left: the block behind the test is on the last one, and the block in it on none. -/
theorem parser_progress_last_level :
    let stream : TokenStream := ⟨[⟨.mark .leftBracket, ⟨1, 1⟩⟩, ⟨.word "x", ⟨1, 2⟩⟩,
      ⟨.mark .rightBracket, ⟨1, 3⟩⟩, ⟨.mark .leftBrace, ⟨1, 5⟩⟩], ⟨1, 6⟩⟩
    0 ≤ stream.tokens.length ∧ 63 ≤ maxNesting ∧
      ∃ t, stream.action.go (.from ⟨0, 63⟩) = some (.error ⟨⟨1, 6⟩, .nestingTooDeep⟩, t) ∧
        t.now.depth = 63 ∧ ∀ c ∈ t.passed, c.index ≤ 4 ∧ c.depth ≤ 64 := by
  intro stream
  have hindex : 0 ≤ stream.tokens.length := Nat.zero_le _
  have hlimit : 63 ≤ maxNesting := by decide
  have hfollows : Follows stream (.from ⟨0, 63⟩) (stream.action.go (.from ⟨0, 63⟩))
      (readStatement stream.stop 1 stream.tokens) :=
    (parser_progress stream ⟨0, 63⟩ hindex hlimit).2.2.2.2.2.2.2.2.2.1
  have hread : readStatement stream.stop 1 stream.tokens =
      .error ⟨⟨⟨1, 6⟩, .nestingTooDeep⟩, [.test ⟨"x", none, .or⟩]⟩ := by cbv
  rw [hread] at hfollows
  generalize stream.action.go (.from ⟨0, 63⟩) = run at hfollows ⊢
  cases hfollows with
  | @error _ t between leads =>
      refine ⟨hindex, hlimit, t, rfl, leads.depth, fun c hc => ?_⟩
      rw [leads.passed] at hc
      have hreaches := leads.reaches c (List.mem_cons_of_mem _ (List.append_nil between ▸ hc))
      exact ⟨hreaches.within, hreaches.limited⟩

end CursorReader

end WindowActions
