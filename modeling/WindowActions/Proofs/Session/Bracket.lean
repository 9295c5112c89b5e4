import WindowActions.Proofs.Session.Grammar

/-!
# Where signals stand in the journal

In a bracketed journal an action is asked only where there is no session, and a signal that makes
no sense without a session stands in one of its own definition. Both are proved for a signal at any
place of the journal, by cutting the journal in front of it.

The main statement is `Engine.journal_bracketed`: the journal is bracketed after whatever has
happened to an engine.
-/

namespace WindowActions

theorem append_eq_append_cons {α : Type} {first second before later : List α} {a : α}
    (h : first ++ second = before ++ a :: later) :
    (∃ rest, first = before ++ a :: rest ∧ later = rest ++ second) ∨
      ∃ rest, before = first ++ rest ∧ second = rest ++ a :: later := by
  rcases List.append_eq_append_iff.1 h with ⟨rest, hbefore, hsecond⟩ | ⟨rest, hfirst, hlater⟩
  · exact Or.inr ⟨rest, hbefore, hsecond⟩
  · cases rest with
    | nil =>
        refine Or.inr ⟨[], ?_, hlater.symm⟩
        rw [hfirst, List.append_nil, List.append_nil]
    | cons b rest =>
        rw [List.cons_append, List.cons.injEq] at hlater
        obtain ⟨rfl, rfl⟩ := hlater
        exact Or.inl ⟨rest, hfirst, rfl⟩

/-- Signals among which only the first one may ask an action. -/
def AsksFirst (signals : List Signal) : Prop :=
  ∀ signal ∈ signals.tail, ¬ signal.IsAsked

namespace AsksFirst

theorem before {signals body before later : List Signal} {signal : Signal}
    (hbody : AsksFirst body) (hsettled : Settled signals)
    (ih : ∀ before later, signals = before ++ signal :: later → Settled before)
    (hasked : signal.IsAsked) (h : signals ++ body = before ++ signal :: later) :
    Settled before := by
  rcases append_eq_append_cons h with ⟨rest, hsignals, -⟩ | ⟨rest, hbefore, heq⟩
  · exact ih before rest hsignals
  · cases rest with
    | nil =>
        rw [hbefore, List.append_nil]
        exact hsettled
    | cons first rest =>
        rw [AsksFirst, heq] at hbody
        exact absurd hasked (hbody signal (by simp))

theorem append {signals more : List Signal} (h : AsksFirst signals) (hne : signals ≠ [])
    (hmore : ∀ signal ∈ more, ¬ signal.IsAsked) : AsksFirst (signals ++ more) := by
  intro signal hsignal
  rw [List.tail_append_of_ne_nil hne, List.mem_append] at hsignal
  rcases hsignal with hsignal | hsignal
  · exact h signal hsignal
  · exact hmore signal hsignal

end AsksFirst

theorem Signal.IsAside.not_isAsked {signal : Signal} (h : signal.IsAside) : ¬ signal.IsAsked := by
  cases signal <;> simp_all [IsAside, IsAsked]

theorem Signal.Continues.not_isAsked {signal : Signal} {d : Nat} (h : signal.Continues d) :
    ¬ signal.IsAsked := by
  cases signal <;> simp_all [Continues, IsAsked]

theorem Signal.Finishes.not_isAsked {signal : Signal} {d : Nat} (h : signal.Finishes d) :
    ¬ signal.IsAsked := by
  cases signal <;> simp_all [Finishes, IsAsked]

theorem Ongoing.ne_nil {signals : List Signal} {d : Nat} (h : Ongoing d signals) :
    signals ≠ [] := by
  cases h <;> simp

theorem Ongoing.asksFirst {signals : List Signal} {d : Nat} (h : Ongoing d signals) :
    AsksFirst signals := by
  induction h with
  | opened => simp [AsksFirst, Signal.IsAsked]
  | more ongoing step ih =>
      refine ih.append ongoing.ne_nil ?_
      intro signal hsignal
      rw [List.mem_singleton] at hsignal
      rcases step with step | step
      · exact hsignal ▸ step.not_isAsked
      · exact hsignal ▸ step.not_isAsked

theorem Whole.asksFirst {signals : List Signal} {d : Nat} (h : Whole d signals) :
    AsksFirst signals := by
  cases h with
  | fruitless => simp [AsksFirst, Signal.IsAsked]
  | finished ongoing finish =>
      refine ongoing.asksFirst.append ongoing.ne_nil ?_
      simpa [Signal.IsAsked] using finish.not_isAsked
  | aborted ongoing =>
      refine ongoing.asksFirst.append ongoing.ne_nil ?_
      simp [Signal.IsAsked]

/-- An action is asked only when there is no session. -/
theorem Settled.before_asked {signals : List Signal} (h : Settled signals) {signal : Signal}
    (hasked : signal.IsAsked) :
    ∀ before later, signals = before ++ signal :: later → Settled before := by
  induction h with
  | nil =>
      intro before later heq
      simp at heq
  | aside settled aside ih =>
      intro before later heq
      exact AsksFirst.before (by simp [AsksFirst]) settled ih hasked heq
  | declined settled ih =>
      intro before later heq
      exact AsksFirst.before (by simp [AsksFirst]) settled ih hasked heq
  | refused settled ih =>
      intro before later heq
      exact AsksFirst.before (by simp [AsksFirst, Signal.IsAsked]) settled ih hasked heq
  | whole settled session ih =>
      intro before later heq
      exact AsksFirst.before session.asksFirst settled ih hasked heq

theorem Bracketed.before_asked {signals : List Signal} {running : Option Nat}
    (h : Bracketed signals running) {signal : Signal} (hasked : signal.IsAsked)
    {before later : List Signal} (heq : signals = before ++ signal :: later) : Settled before := by
  cases h with
  | settled hs => exact hs.before_asked hasked before later heq
  | ongoing hs hb => exact hb.asksFirst.before hs (hs.before_asked hasked) hasked heq

/-- Between `before` and `later`, a signal stands in a session of the definition `d`. -/
def Within (d : Nat) (before : List Signal) (signal : Signal) (later : List Signal) : Prop :=
  ∃ outside inside rest, before = outside ++ inside ∧ rest <+: later ∧ Settled outside ∧
    (Whole d (inside ++ signal :: rest) ∨ Ongoing d (inside ++ signal :: rest))

theorem Signal.IsAside.owner?_eq_none {signal : Signal} (h : signal.IsAside) :
    signal.owner? = none := by
  cases signal <;> simp_all [IsAside, owner?]

theorem Signal.Continues.owner?_eq_some {signal : Signal} {d : Nat} (h : signal.Continues d) :
    signal.owner? = some d := by
  cases signal <;> simp_all [Continues, owner?]

theorem Signal.Finishes.owner?_eq_some {signal : Signal} {d : Nat} (h : signal.Finishes d) :
    signal.owner? = some d := by
  cases signal <;> simp_all [Finishes, owner?]

theorem Ongoing.owner {signals : List Signal} {d e : Nat} (h : Ongoing d signals) :
    ∀ signal ∈ signals, signal.owner? = some e → e = d := by
  induction h with
  | opened definition interactive =>
      intro signal hsignal howner
      simp only [List.mem_cons, List.not_mem_nil, or_false] at hsignal
      rcases hsignal with rfl | rfl | rfl <;> simp_all [Signal.owner?]
  | more ongoing step ih =>
      intro signal hsignal howner
      rcases List.mem_append.1 hsignal with hsignal | hsignal
      · exact ih signal hsignal howner
      · rw [List.mem_singleton.1 hsignal] at howner
        rcases step with step | step
        · rw [step.owner?_eq_none] at howner
          cases howner
        · rw [step.owner?_eq_some] at howner
          exact (Option.some.inj howner).symm

theorem Whole.owner {signals : List Signal} {d e : Nat} (h : Whole d signals) :
    ∀ signal ∈ signals, signal.owner? = some e → e = d := by
  intro signal hsignal howner
  cases h with
  | fruitless definition interactive =>
      simp only [List.mem_cons, List.not_mem_nil, or_false] at hsignal
      rcases hsignal with rfl | rfl | rfl | rfl | rfl <;> simp_all [Signal.owner?]
  | finished ongoing finish definition =>
      rcases List.mem_append.1 hsignal with hsignal | hsignal
      · exact ongoing.owner signal hsignal howner
      · simp only [List.mem_cons, List.not_mem_nil, or_false] at hsignal
        have := finish.owner?_eq_some
        rcases hsignal with rfl | rfl | rfl <;> simp_all [Signal.owner?]
  | aborted ongoing definition =>
      rcases List.mem_append.1 hsignal with hsignal | hsignal
      · exact ongoing.owner signal hsignal howner
      · simp only [List.mem_cons, List.not_mem_nil, or_false] at hsignal
        rcases hsignal with rfl | rfl | rfl <;> simp_all [Signal.owner?]

/-- Signals that belong to no definition can be put behind settled ones. -/
theorem Within.of_append {signals body before later : List Signal} {signal : Signal} {d : Nat}
    (ih : ∀ before later, signals = before ++ signal :: later → Within d before signal later)
    (hbody : ∀ rest, body = rest ++ signal :: later → before = signals ++ rest →
      Within d before signal later)
    (h : signals ++ body = before ++ signal :: later) : Within d before signal later := by
  rcases append_eq_append_cons h with ⟨rest, hsignals, hlater⟩ | ⟨rest, hbefore, heq⟩
  · obtain ⟨outside, inside, rest', hbefore, hrest, houtside, hsession⟩ := ih before rest hsignals
    refine ⟨outside, inside, rest', hbefore, ?_, houtside, hsession⟩
    rw [hlater]
    exact hrest.trans (List.prefix_append _ _)
  · exact hbody rest heq hbefore

/-- A signal that belongs to a definition stands in one of its sessions. -/
theorem Settled.within {signals : List Signal} (h : Settled signals) {signal : Signal} {d : Nat}
    (howner : signal.owner? = some d) :
    ∀ before later, signals = before ++ signal :: later → Within d before signal later := by
  have hnone : ∀ {body : List Signal} {before later : List Signal} (rest : List Signal),
      (∀ s ∈ body, s.owner? = none) → body = rest ++ signal :: later →
        Within d before signal later := by
    intro body before later rest hbody heq
    have := hbody signal (by simp [heq])
    rw [howner] at this
    cases this
  induction h with
  | nil =>
      intro before later heq
      simp at heq
  | aside settled aside ih =>
      intro before later heq
      refine Within.of_append ih (fun rest hrest _ => hnone rest ?_ hrest) heq
      simpa using aside.owner?_eq_none
  | declined settled ih =>
      intro before later heq
      refine Within.of_append ih (fun rest hrest _ => hnone rest ?_ hrest) heq
      simp [Signal.owner?]
  | refused settled ih =>
      intro before later heq
      refine Within.of_append ih (fun rest hrest _ => hnone rest ?_ hrest) heq
      simp [Signal.owner?]
  | whole settled session ih =>
      intro before later heq
      refine Within.of_append ih (fun rest hrest hbefore => ?_) heq
      have hd := session.owner signal (by simp [hrest]) howner
      exact ⟨_, rest, later, hbefore, List.prefix_refl _, settled,
        Or.inl (by rw [hd, ← hrest]; exact session)⟩

theorem Bracketed.within {signals : List Signal} {running : Option Nat}
    (h : Bracketed signals running) {signal : Signal} {d : Nat}
    (howner : signal.owner? = some d) {before later : List Signal}
    (heq : signals = before ++ signal :: later) : Within d before signal later := by
  cases h with
  | settled hs => exact hs.within howner before later heq
  | ongoing hs hb =>
      refine Within.of_append (hs.within howner) (fun rest hrest hbefore => ?_) heq
      have hd := hb.owner signal (by simp [hrest]) howner
      exact ⟨_, rest, later, hbefore, List.prefix_refl _, hs,
        Or.inr (by rw [hd, ← hrest]; exact hb)⟩

variable {S H : Type} [Seat S]

/-- The callbacks and grabs of an engine, in the order in which they happen, are a row of sessions.
An action is asked only where there is no session, whatever belongs to a definition stands in one
of its sessions, and what a call adds to the journal is what it has done. -/
theorem Engine.journal_bracketed (change : H → World S → World S) (vocabulary : Vocabulary)
    (seat : S) (desktop : Desktop) (happenings : List (Happening H)) :
    let engine := Engine.after change ⟨vocabulary, { seat, desktop }⟩ happenings
    Bracketed engine.stage.journal (engine.stage.session.map Session.definition) ∧
    (∀ before action data accepted later,
      engine.stage.journal = before ++ .asked action data accepted :: later → Settled before) ∧
    (∀ before signal later d, engine.stage.journal = before ++ signal :: later →
      signal.owner? = some d → Within d before signal later) ∧
    (∀ call, ∃ new, engine.stage.Writes new (engine.perform call).stage) := by
  intro engine
  have hbracketed : Bracketed engine.stage.journal
      (engine.stage.session.map Session.definition) :=
    after_induct (P := fun engine => Bracketed engine.stage.journal
        (engine.stage.session.map Session.definition))
      (fun engine happening h => engine.bracketed_happen happening h) _ (.settled .nil) happenings
  refine ⟨hbracketed, ?_, ?_, ?_⟩
  · intro before action data accepted later heq
    have hasked : (Signal.asked action data accepted).IsAsked := trivial
    exact hbracketed.before_asked hasked heq
  · intro before signal later d heq howner
    exact hbracketed.within howner heq
  · intro call
    obtain ⟨new, hw, -⟩ := engine.perform_course call
    exact ⟨new, hw⟩

end WindowActions
