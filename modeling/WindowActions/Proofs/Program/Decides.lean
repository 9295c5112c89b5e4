import WindowActions.Proofs.Program.Yields

/-!
# How far readers of programs look

A reader decides about its tokens without most of them. When it accepts some, it has seen these, the
next token, and the token after that if the next two could be an option. When it rejects one, it has
seen this token and those in front of it. So it decides the same about any tokens that agree so far.

`Decides` says this, and that what the reader has accepted stands there and what stands in front of
a rejected token can be continued. The lemmas below it follow the ways in which readers are
combined: behind a token, with another result, and one behind the other.
-/

namespace WindowActions

/-- The result is this error. -/
def Fails {α : Type} (result : Except Rejection α) (e : SourceError) : Prop :=
  ∃ heard, result = .error ⟨e, heard⟩

section Fails

variable {α β : Type} {e : SourceError}

@[simp] theorem not_fails_ok {a : α} : ¬Fails (.ok a : Except Rejection α) e := by
  rintro ⟨heard, h⟩
  cases h

@[simp] theorem fails_map {result : Except Rejection α} {f : α → β} :
    Fails (result.map f) e ↔ Fails result e := by
  cases result with
  | error r => simp [Fails, Except.map]
  | ok a => simp [Except.map]

@[simp] theorem fails_hearing {result : Except Rejection α} {phrases : List Phrase} :
    Fails (hearing phrases result) e ↔ Fails result e := by
  cases result with
  | error r =>
      obtain ⟨e', heard⟩ := r
      simp [Fails, hearing]
  | ok a => simp [hearing]

theorem fails_bind {result : Except Rejection α} {f : α → Except Rejection β} :
    Fails (result >>= f) e ↔ Fails result e ∨ ∃ a, result = .ok a ∧ Fails (f a) e := by
  cases result with
  | error r => simp [Fails, Bind.bind, Except.bind]
  | ok a => simp [Bind.bind, Except.bind]

theorem Yields.bind_fails {n : Nat} {result : Except Rejection (Reading Token α n)} {a : α}
    {middle : List Token} (h : Yields result a middle)
    {f : Reading Token α n → Except Rejection β}
    (hf : ∀ hshorter, Fails (f ⟨a, middle, hshorter⟩) e) : Fails (result >>= f) e := by
  obtain ⟨hshorter, rfl⟩ := h
  exact hf hshorter

theorem Yields.not_fails {n : Nat} {result : Except Rejection (Reading Token α n)} {a : α}
    {rest : List Token} (h : Yields result a rest) : ¬Fails result e := by
  obtain ⟨hshorter, rfl⟩ := h
  exact not_fails_ok

theorem Fails.unique {result : Except Rejection α} {e' : SourceError} (h : Fails result e)
    (h' : Fails result e') : e = e' := by
  obtain ⟨heard, rfl⟩ := h
  obtain ⟨heard', heq⟩ := h'
  exact congrArg Rejection.error (Except.error.inj heq)

end Fails

/-- The error at the first of the tokens, or at their end, where something else is wanted. -/
def mismatch (stop : Position) (wanted : Expectation) (tokens : List Token) : SourceError :=
  ⟨nextPosition stop tokens, .unexpected wanted (tokens.head?.map (·.kind))⟩

theorem fails_unexpected {α : Type} {stop : Position} {wanted : Expectation}
    {tokens : List Token} :
    Fails (unexpected stop wanted tokens : Except Rejection α) (mismatch stop wanted tokens) :=
  ⟨[], rfl⟩

/-- Whether the first token is a word. -/
def startsWithWord : List Token → Bool
  | ⟨.word _, _⟩ :: _ => true
  | _ => false

theorem startsOption_eq_true {tokens : List Token} (h : startsOption tokens = true) :
    ∃ name pos pos' rest, tokens = ⟨.word name, pos⟩ :: ⟨.mark .colon, pos'⟩ :: rest := by
  unfold startsOption at h
  split at h
  next name pos rest =>
    obtain ⟨pos', rest, rfl⟩ := startsWith_eq_true_iff.1 h
    exact ⟨name, pos, pos', rest, rfl⟩
  next => cases h

/-- Tokens that cannot be told apart by a reader that ends in front of them, and that may look for
an option there. -/
structure LooksLike (options : Bool) (tokens tokens' : List Token) : Prop where
  head : tokens.head? = tokens'.head?
  option : options = true → startsOption tokens = startsOption tokens'

section Looks

variable {o o' : Bool} {tokens tokens' : List Token}

theorem head?_append_congr (front : List Token) (h : tokens.head? = tokens'.head?) :
    (front ++ tokens).head? = (front ++ tokens').head? := by
  rw [List.head?_append, List.head?_append, h]

theorem startsWith_congr (m : Mark) (h : tokens.head? = tokens'.head?) :
    startsWith m tokens = startsWith m tokens' := by
  cases tokens with
  | nil => rw [List.head?_eq_none_iff.1 h.symm]
  | cons token rest =>
      obtain ⟨rest', rfl⟩ := List.head?_eq_some_iff.1 h.symm
      obtain ⟨kind, pos⟩ := token
      cases kind <;> rfl

theorem LooksLike.refl (o : Bool) (tokens : List Token) : LooksLike o tokens tokens :=
  ⟨rfl, fun _ => rfl⟩

theorem LooksLike.weaken (h : LooksLike o tokens tokens') (ho : o' = true → o = true) :
    LooksLike o' tokens tokens' :=
  ⟨h.head, fun ho' => h.option (ho ho')⟩

/-- An option does not show in a token that is no word. -/
theorem LooksLike.of_head (h : tokens.head? = tokens'.head?)
    (hword : startsWithWord tokens = false) : LooksLike o tokens tokens' := by
  refine ⟨h, fun _ => ?_⟩
  cases tokens with
  | nil => rw [List.head?_eq_none_iff.1 h.symm]
  | cons token rest =>
      obtain ⟨rest', rfl⟩ := List.head?_eq_some_iff.1 h.symm
      obtain ⟨kind, pos⟩ := token
      cases kind with
      | word chars => cases hword
      | text chars => rfl
      | mark m => rfl

theorem LooksLike.cons (token : Token) (h : tokens.head? = tokens'.head?) :
    LooksLike o (token :: tokens) (token :: tokens') := by
  refine ⟨rfl, fun _ => ?_⟩
  obtain ⟨kind, pos⟩ := token
  cases kind with
  | word chars => exact startsWith_congr .colon h
  | text chars => rfl
  | mark m => rfl

/-- Behind the same tokens it is enough that the next token is the same. -/
theorem LooksLike.append (front : List Token) (h : tokens.head? = tokens'.head?)
    (hfront : front = [] → LooksLike o tokens tokens') :
    LooksLike o (front ++ tokens) (front ++ tokens') := by
  cases front with
  | nil => exact hfront rfl
  | cons token front => exact .cons token (head?_append_congr front h)

end Looks

section Decides

variable {α β γ : Type} {n n' n'' : List Token → Nat} {o o' : Bool} {stop : Position}

/-- What a reader decides about the tokens. If it accepts some, they are accepted in front of any
others that look like the rest. If it rejects one, it does so whatever is behind it, and what is in
front of it can be continued. A word is never rejected as the first token, so whether it begins an
option of a statement in front of it is of no concern. Or the reader runs out of levels. -/
inductive Decides (o : Bool) (stop : Position)
    (read : (tokens : List Token) → Except Rejection (Reading Token α (n tokens)))
    (stands : α → List Token → List Token → Prop) (tokens : List Token) : Prop
  | accepts (a : α) (front rest : List Token) (split : tokens = front ++ rest)
      (there : ∀ rest', stands a (front ++ rest') rest')
      (again : ∀ rest', LooksLike o rest rest' → Yields (read (front ++ rest')) a rest')
  | rejects (wanted : Expectation) (before behind : List Token) (split : tokens = before ++ behind)
      (begins : ∃ a more, stands a (before ++ more) [])
      (start : before = [] → startsWithWord behind = false)
      (again : ∀ behind', behind.head? = behind'.head? →
        Fails (read (before ++ behind')) (mismatch stop wanted behind'))
  | tooDeep (e : SourceError) (fault : e.fault = .nestingTooDeep) (fails : Fails (read tokens) e)

variable {read : (tokens : List Token) → Except Rejection (Reading Token α (n tokens))}
  {stands : α → List Token → List Token → Prop} {token : Token} {tokens : List Token}

namespace Decides

/-- A reader that accepts nothing. -/
theorem here (a : α) (hstands : ∀ rest, stands a rest rest)
    (h : ∀ tokens', LooksLike o tokens tokens' → Yields (read tokens') a tokens') :
    Decides o stop read stands tokens :=
  .accepts a [] tokens rfl hstands h

theorem unexpected (wanted : Expectation) (hbegins : ∃ a more, stands a more [])
    (hword : startsWithWord tokens = false)
    (h : ∀ tokens', tokens.head? = tokens'.head? →
      read tokens' = WindowActions.unexpected stop wanted tokens') :
    Decides o stop read stands tokens := by
  refine .rejects wanted [] tokens rfl hbegins (fun _ => hword) fun tokens' hhead => ?_
  rw [List.nil_append, h tokens' hhead]
  exact fails_unexpected

theorem unexpected_nil (wanted : Expectation) (hbegins : ∃ a more, stands a more [])
    (h : read [] = WindowActions.unexpected stop wanted []) : Decides o stop read stands [] := by
  refine unexpected wanted hbegins rfl fun tokens' hhead => ?_
  rw [List.head?_eq_none_iff.1 hhead.symm]
  exact h

theorem unexpected_cons (wanted : Expectation) (hbegins : ∃ a more, stands a more [])
    (hword : startsWithWord (token :: tokens) = false)
    (h : ∀ rest, read (token :: rest) = WindowActions.unexpected stop wanted (token :: rest)) :
    Decides o stop read stands (token :: tokens) := by
  refine unexpected wanted hbegins hword fun tokens' hhead => ?_
  obtain ⟨rest, rfl⟩ := List.head?_eq_some_iff.1 hhead.symm
  exact h rest

/-- A reader that goes on behind a token. -/
theorem cons (h : Decides o stop (fun tokens => read (token :: tokens))
      (fun a tokens => stands a (token :: tokens)) tokens) :
    Decides o stop read stands (token :: tokens) := by
  cases h with
  | accepts a front rest split there again =>
      exact .accepts a (token :: front) rest (congrArg (token :: ·) split) there again
  | rejects wanted before behind split begins start again =>
      refine .rejects wanted (token :: before) behind (congrArg (token :: ·) split) begins ?_ again
      intro hnil
      cases hnil
  | tooDeep e fault fails => exact .tooDeep e fault fails

theorem weaken (h : Decides false stop read stands tokens) : Decides o stop read stands tokens := by
  cases h with
  | accepts a front rest split there again =>
      exact .accepts a front rest split there fun rest' hrest =>
        again rest' (hrest.weaken fun hfalse => absurd hfalse Bool.false_ne_true)
  | rejects wanted before behind split begins start again =>
      exact .rejects wanted before behind split begins start again
  | tooDeep e fault fails => exact .tooDeep e fault fails

/-- A reader that goes on as another one, and gives another result. -/
theorem map {read' : (tokens : List Token) → Except Rejection (Reading Token β (n' tokens))}
    {stands' : β → List Token → List Token → Prop} (g : α → β)
    (h : Decides o stop read stands tokens)
    (hyields : ∀ tokens', tokens.head? = tokens'.head? → ∀ a rest,
      Yields (read tokens') a rest → Yields (read' tokens') (g a) rest)
    (hfails : ∀ tokens', tokens.head? = tokens'.head? → ∀ e,
      Fails (read tokens') e → Fails (read' tokens') e)
    (hstands : ∀ a tokens rest, stands a tokens rest → stands' (g a) tokens rest) :
    Decides o stop read' stands' tokens := by
  cases h with
  | accepts a front rest split there again =>
      refine .accepts (g a) front rest split (fun rest' => hstands _ _ _ (there rest')) ?_
      intro rest' hrest
      exact hyields _ (split ▸ head?_append_congr front hrest.head) _ _ (again rest' hrest)
  | rejects wanted before behind split begins start again =>
      obtain ⟨a, more, ha⟩ := begins
      refine .rejects wanted before behind split ⟨g a, more, hstands _ _ _ ha⟩ start ?_
      intro behind' hhead
      exact hfails _ (split ▸ head?_append_congr before hhead) _ (again behind' hhead)
  | tooDeep e fault fails => exact .tooDeep e fault (hfails _ rfl _ fails)

end Decides

/-- At these tokens one reader runs as two others, one behind the other. -/
structure RunsAs (read : (tokens : List Token) → Except Rejection (Reading Token γ (n'' tokens)))
    (first : (tokens : List Token) → Except Rejection (Reading Token α (n tokens)))
    (second : (tokens : List Token) → Except Rejection (Reading Token β (n' tokens)))
    (g : α → β → γ) (tokens : List Token) : Prop where
  yields : ∀ a middle b rest, Yields (first tokens) a middle → Yields (second middle) b rest →
    Yields (read tokens) (g a b) rest
  fails_first : ∀ e, Fails (first tokens) e → Fails (read tokens) e
  fails_second : ∀ a middle e, Yields (first tokens) a middle → Fails (second middle) e →
    Fails (read tokens) e

/-- Two readers, one behind the other. If the second one can accept nothing, both can end where the
first one ends, and then both together look as far as the first one. -/
theorem Decides.andThen
    {first : (tokens : List Token) → Except Rejection (Reading Token α (n tokens))}
    {second : (tokens : List Token) → Except Rejection (Reading Token β (n' tokens))}
    {read : (tokens : List Token) → Except Rejection (Reading Token γ (n'' tokens))}
    {stands : γ → List Token → List Token → Prop} {firstAt : α → List Token → List Token → Prop}
    {secondAt : β → List Token → List Token → Prop} {g : α → β → γ}
    (hread : ∀ tokens', tokens.head? = tokens'.head? → RunsAs read first second g tokens')
    (hlook : ∀ b, secondAt b [] [] → o = true → o' = true)
    (hfirst : Decides o stop first firstAt tokens)
    (hsecond : ∀ a front rest, tokens = front ++ rest → Yields (first tokens) a rest →
      Decides o' stop second secondAt rest)
    (hstands : ∀ a b tokens middle rest, firstAt a tokens middle → secondAt b middle rest →
      stands (g a b) tokens rest)
    (hends : ∀ a tokens, firstAt a tokens [] → ∃ c more, stands c (tokens ++ more) []) :
    Decides o' stop read stands tokens := by
  cases hfirst with
  | tooDeep e fault fails => exact .tooDeep e fault ((hread tokens rfl).fails_first e fails)
  | rejects wanted before behind split begins start again =>
      obtain ⟨a, more, ha⟩ := begins
      obtain ⟨c, more', hc⟩ := hends a _ ha
      rw [List.append_assoc] at hc
      refine .rejects wanted before behind split ⟨c, _, hc⟩ start fun behind' hhead => ?_
      exact (hread _ (split ▸ head?_append_congr before hhead)).fails_first _ (again behind' hhead)
  | accepts a front rest split there again =>
      have hyields : Yields (first tokens) a rest := split ▸ again rest (.refl o rest)
      cases hsecond a front rest split hyields with
      | tooDeep e fault fails =>
          exact .tooDeep e fault ((hread tokens rfl).fails_second a rest e hyields fails)
      | accepts b front' rest' split' there' again' =>
          have ho : front' = [] → o = true → o' = true := by
            rintro rfl
            exact hlook b (there' [])
          subst split split'
          refine .accepts (g a b) (front ++ front') rest' (List.append_assoc ..).symm ?_ ?_
          · intro more
            rw [List.append_assoc]
            exact hstands a b _ _ _ (there _) (there' more)
          · intro more hmore
            rw [List.append_assoc]
            have hlook : LooksLike o (front' ++ rest') (front' ++ more) :=
              .append front' hmore.head fun hnil => hmore.weaken (ho hnil)
            exact (hread _ (head?_append_congr front hlook.head)).yields _ _ _ _
              (again _ hlook) (again' more hmore)
      | rejects wanted before behind split' begins start again' =>
          obtain ⟨b, more, hb⟩ := begins
          subst split split'
          refine .rejects wanted (front ++ before) behind (List.append_assoc ..).symm
            ⟨g a b, more, ?_⟩ ?_ ?_
          · rw [List.append_assoc]
            exact hstands a b _ _ _ (there _) hb
          · intro hnil
            exact start (List.append_eq_nil_iff.1 hnil).2
          · intro behind' hhead
            rw [List.append_assoc]
            have hlook : LooksLike o (before ++ behind) (before ++ behind') :=
              .append before hhead fun hnil => .of_head hhead (start hnil)
            exact (hread _ (head?_append_congr front hlook.head)).fails_second _ _ _
              (again _ hlook) (again' behind' hhead)

end Decides

end WindowActions
