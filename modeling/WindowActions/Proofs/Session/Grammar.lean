import WindowActions.Proofs.Session.Calls

/-!
# Sessions in the journal

The journal of an engine is a row of whole sessions, with starts that came to nothing and signals
that need no session between them; at its end there may be one session that goes on. A session of
the definition `d` begins with `d` agreeing, getting the keyboard and running. While it goes on,
only `d` is run as an interactive action or gets input, and nothing is asked whether it wants to
begin. In the end it is aborted, or `d` finishes it; then the keyboard is let go and `d` is told,
once each.

These are the relations `Ongoing`, `Whole`, `Settled` and `Bracketed`. Turns, passages and courses
keep a journal in `Bracketed`, and so does everything that happens to an engine.
-/

namespace WindowActions

/-- The number of the definition that a session belongs to. -/
def Session.definition (session : Session) : Nat := session.action.info.id

namespace Signal

/-- Needs no session: a test, or a run of an action that is not interactive. -/
def IsAside : Signal → Prop
  | tested _ => True
  | ran action _ _ _ => action.info.interactive = false
  | _ => False

/-- A run or an input with which a session of the definition `d` goes on. -/
def Continues (d : Nat) : Signal → Prop
  | ran action _ _ started =>
    action.info.interactive = true ∧ action.info.id = d ∧ started = true
  | gotInput action _ _ outcome => action.info.id = d ∧ outcome.resume = true
  | _ => False

/-- A run or an input with which the definition `d` finishes its session. -/
def Finishes (d : Nat) : Signal → Prop
  | ran action _ _ started =>
    action.info.interactive = true ∧ action.info.id = d ∧ started = false
  | gotInput action _ _ outcome => action.info.id = d ∧ outcome.resume = false
  | _ => False

/-- An action is asked whether its session may begin. -/
def IsAsked : Signal → Prop
  | asked _ _ _ => True
  | _ => False

/-- The definition without whose session a signal makes no sense. -/
def owner? : Signal → Option Nat
  | ran action _ _ _ => if action.info.interactive then some action.info.id else none
  | gotInput action _ _ _ | cancelled action | released action | ended action =>
    some action.info.id
  | tested _ | asked _ _ _ | grabbed _ _ => none

end Signal

/-- The signals of a session of the definition `d` that goes on. -/
inductive Ongoing (d : Nat) : List Signal → Prop
  | opened {action : Action} {set : Option ClientSet} {data : ActionData}
      (definition : action.info.id = d) (interactive : action.info.interactive = true) :
      Ongoing d [.asked action data true, .grabbed action true, .ran action set data true]
  | more {signals : List Signal} {signal : Signal} (ongoing : Ongoing d signals)
      (step : signal.IsAside ∨ signal.Continues d) : Ongoing d (signals ++ [signal])

/-- The signals of a session of the definition `d` that is over. -/
inductive Whole (d : Nat) : List Signal → Prop
  | fruitless {action : Action} {set : Option ClientSet} {data : ActionData}
      (definition : action.info.id = d) (interactive : action.info.interactive = true) :
      Whole d [.asked action data true, .grabbed action true, .ran action set data false,
        .released action, .ended action]
  | finished {signals : List Signal} {signal : Signal} {action : Action}
      (ongoing : Ongoing d signals) (finish : signal.Finishes d)
      (definition : action.info.id = d) :
      Whole d (signals ++ [signal, .released action, .ended action])
  | aborted {signals : List Signal} {action : Action} (ongoing : Ongoing d signals)
      (definition : action.info.id = d) :
      Whole d (signals ++ [.cancelled action, .released action, .ended action])

/-- The signals of an engine without a session: whole sessions, starts that are declined or do not
get the keyboard, and signals that need no session. -/
inductive Settled : List Signal → Prop
  | nil : Settled []
  | aside {signals : List Signal} {signal : Signal} (settled : Settled signals)
      (aside : signal.IsAside) : Settled (signals ++ [signal])
  | declined {signals : List Signal} {action : Action} {data : ActionData}
      (settled : Settled signals) : Settled (signals ++ [.asked action data false])
  | refused {signals : List Signal} {action : Action} {data : ActionData}
      (settled : Settled signals) :
      Settled (signals ++ [.asked action data true, .grabbed action false])
  | whole {signals body : List Signal} {d : Nat} (settled : Settled signals)
      (session : Whole d body) : Settled (signals ++ body)

/-- The signals of an engine, and the definition whose session goes on, if there is one. -/
inductive Bracketed : List Signal → Option Nat → Prop
  | settled {signals : List Signal} (settled : Settled signals) : Bracketed signals none
  | ongoing {signals body : List Signal} {d : Nat} (settled : Settled signals)
      (session : Ongoing d body) : Bracketed (signals ++ body) (some d)

namespace Bracketed

theorem aside {journal : List Signal} {running : Option Nat} {signal : Signal}
    (h : Bracketed journal running) (ha : signal.IsAside) :
    Bracketed (journal ++ [signal]) running := by
  cases h with
  | settled hs => exact .settled (hs.aside ha)
  | ongoing hs hb =>
      rw [List.append_assoc]
      exact .ongoing hs (hb.more (Or.inl ha))

theorem continues {journal : List Signal} {d : Nat} {signal : Signal}
    (h : Bracketed journal (some d)) (hc : signal.Continues d) :
    Bracketed (journal ++ [signal]) (some d) := by
  cases h with
  | ongoing hs hb =>
      rw [List.append_assoc]
      exact .ongoing hs (hb.more (Or.inr hc))

theorem finishes {journal : List Signal} {d : Nat} {signal : Signal} {action : Action}
    (h : Bracketed journal (some d)) (hf : signal.Finishes d) (hd : action.info.id = d) :
    Settled (journal ++ [signal, .released action, .ended action]) := by
  cases h with
  | ongoing hs hb =>
      rw [List.append_assoc]
      exact hs.whole (.finished hb hf hd)

theorem abort {journal : List Signal} {session : Option Session}
    (h : Bracketed journal (session.map Session.definition)) :
    Settled (journal ++ abortSignals session) := by
  cases session with
  | none =>
      cases h with
      | settled hs =>
          rw [abortSignals, List.append_nil]
          exact hs
  | some session =>
      rw [Option.map_some] at h
      cases h with
      | ongoing hs hb =>
          rw [abortSignals, List.append_assoc]
          exact hs.whole (.aborted hb rfl)

theorem turn {journal new : List Signal} {before after : Option Session} {started : Bool}
    {action : Action} {set : Option ClientSet} {data : ActionData}
    (h : Bracketed journal (before.map Session.definition))
    (ht : Turn action set data before started new after) :
    Bracketed (journal ++ new) (after.map Session.definition) := by
  cases ht with
  | aside plain => exact h.aside plain
  | continued interactive same =>
      rw [Option.map_some, Session.definition, same] at h
      exact h.continues ⟨interactive, rfl, rfl⟩
  | finished interactive same =>
      rw [Option.map_some, Session.definition, same] at h
      exact .settled (h.finishes ⟨interactive, rfl, rfl⟩ rfl)
  | declined interactive other =>
      rw [← List.append_assoc]
      exact .settled h.abort.declined
  | refused interactive other =>
      rw [← List.append_assoc]
      exact .settled h.abort.refused
  | opened interactive other =>
      rw [← List.append_assoc]
      exact .ongoing h.abort (.opened rfl interactive)
  | fruitless interactive other =>
      rw [← List.append_assoc]
      exact .settled (h.abort.whole (.fruitless rfl interactive))

theorem passage {new : List Signal} {before after : Option Session} {started : Bool}
    (hp : Passage before started new after) :
    ∀ {journal : List Signal}, Bracketed journal (before.map Session.definition) →
      Bracketed (journal ++ new) (after.map Session.definition) := by
  induction hp with
  | nil =>
      intro journal h
      rw [List.append_nil]
      exact h
  | tested isMatch branch ih =>
      intro journal h
      rw [List.append_cons]
      exact ih (h.aside trivial)
  | turn ht =>
      intro journal h
      exact h.turn ht
  | next entry entries ih ih' =>
      intro journal h
      rw [← List.append_assoc]
      exact ih' (ih h)

theorem course {journal new : List Signal} {before after : Option Session}
    (h : Bracketed journal (before.map Session.definition)) (hc : Course before new after) :
    Bracketed (journal ++ new) (after.map Session.definition) := by
  cases hc with
  | run hp => exact passage hp h
  | unheard =>
      rw [List.append_nil]
      exact h
  | resumed resume => exact h.continues ⟨rfl, resume⟩
  | stopped stop => exact .settled (h.finishes ⟨rfl, stop⟩ rfl)
  | aborted => exact .settled h.abort

end Bracketed

variable {S H : Type} [Seat S]

/-- The journal of an engine stays bracketed, and the definition whose session goes on at its end
is the one of the engine's session. -/
theorem Engine.bracketed_happen {change : H → World S → World S} (engine : Engine S)
    (happening : Happening H)
    (h : Bracketed engine.stage.journal (engine.stage.session.map Session.definition)) :
    Bracketed (engine.happen change happening).stage.journal
      ((engine.happen change happening).stage.session.map Session.definition) := by
  cases happening with
  | call call =>
      obtain ⟨new, hw, hcourse⟩ := engine.perform_course call
      rw [show (engine.happen change (.call call)) = engine.perform call from rfl, hw.journal]
      exact h.course hcourse
  | parse source => exact h
  | host change => exact h

end WindowActions
