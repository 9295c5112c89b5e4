import WindowActions.Engine.Basic
import WindowActions.Proofs.Session.Passage

/-!
# What calls of the engine do to the session

An engine is called to run a list, to take input, to abort and to shut down. In between, programs
are read, and the host does what it likes to the seat and the desktop. `Engine.after` is the engine
after any number of such happenings, and `Engine.after_induct` is the induction over them.

`Course` lists what one call can do to the session, in the same way as `Turn` does for one action.
-/

namespace WindowActions

variable {S H : Type} [Seat S]

inductive Call where
  | run (list : ActionList) (trigger : Trigger)
  | input (event : InputEvent)
  | cancel
  | shutdown

/-- Something that happens to an engine. The changes that a host makes by itself are those of the
type `H`. -/
inductive Happening (H : Type) where
  | call (call : Call)
  | parse (source : String)
  | host (change : H)

/-- What an engine gives back. -/
inductive Answer where
  | done
  | truth (value : Bool)
  | program (result : Except ParseFailure ActionList)

/-- What one call does to the session: the session before, the signals, and the session after. Input
goes unheard without a session, and otherwise resumes or stops it. -/
inductive Course : Option Session → List Signal → Option Session → Prop
  | run {before after : Option Session} {started : Bool} {new : List Signal}
      (passage : Passage before started new after) : Course before new after
  | unheard : Course none [] none
  | resumed {session : Session} {event : InputEvent} {outcome : InputOutcome}
      (resume : outcome.resume = true) :
      Course (some session) [.gotInput session.action session.initialState event outcome]
        (some session)
  | stopped {session : Session} {event : InputEvent} {outcome : InputOutcome}
      (stop : outcome.resume = false) :
      Course (some session)
        [.gotInput session.action session.initialState event outcome, .released session.action,
          .ended session.action] none
  | aborted (session : Option Session) : Course session (abortSignals session) none

namespace Stage

/-- The stage after a change of its world. -/
def withWorld (stage : Stage S) (f : World S → World S) : Stage S :=
  { stage with seat := (f stage.world).1, desktop := (f stage.world).2 }

theorem input_none {stage : Stage S} (h : stage.session = none) (event : InputEvent) :
    stage.input event = (false, stage) := by
  simp [input, h]

theorem input_course (stage : Stage S) (event : InputEvent) :
    ∃ new, stage.Writes new (stage.input event).2 ∧
      Course stage.session new (stage.input event).2.session := by
  cases h : stage.session with
  | none =>
      rw [input_none h, h]
      exact ⟨[], .refl stage, .unheard⟩
  | some session =>
      have hw := stage.writes_hear session event
      have hkept : (stage.hear session event).2.session = some session := h
      simp only [input, h]
      cases hresume : (stage.hear session event).1.resume with
      | true =>
          rw [if_pos rfl, hkept]
          exact ⟨_, hw, .resumed hresume⟩
      | false =>
          rw [if_neg Bool.false_ne_true, endSession_some hkept]
          exact ⟨_, hw.trans (writes_close _ session), .stopped hresume⟩

end Stage

namespace Engine

/-- The engine after a call. -/
def perform (engine : Engine S) : Call → Engine S
  | .run list trigger => (engine.run list trigger).2
  | .input event => (engine.input event).2
  | .cancel => engine.cancel
  | .shutdown => engine.shutdown

/-- The engine after something has happened to it, given what the changes of the host are. -/
def happen (change : H → World S → World S) (engine : Engine S) : Happening H → Engine S
  | .call call => engine.perform call
  | .parse source => (engine.parse source).2
  | .host h => { engine with stage := engine.stage.withWorld (change h) }

/-- The engine after several things have happened to it, the first one first. -/
def after (change : H → World S → World S) (engine : Engine S)
    (happenings : List (Happening H)) : Engine S :=
  happenings.foldl (happen change) engine

theorem after_cons (change : H → World S → World S) (engine : Engine S)
    (happening : Happening H) (happenings : List (Happening H)) :
    engine.after change (happening :: happenings) =
      (engine.happen change happening).after change happenings := rfl

/-- What everything that happens preserves holds in the end. -/
theorem after_induct {change : H → World S → World S} {P : Engine S → Prop}
    (step : ∀ engine happening, P engine → P (engine.happen change happening))
    (engine : Engine S) (start : P engine) (happenings : List (Happening H)) :
    P (engine.after change happenings) := by
  induction happenings generalizing engine with
  | nil => exact start
  | cons happening happenings ih =>
      rw [after_cons]
      exact ih _ (step engine happening start)

/-- Everything that a call can do to the session is a course, and the journal tells all that it
has done to the world. -/
theorem perform_course (engine : Engine S) (call : Call) :
    ∃ new, engine.stage.Writes new (engine.perform call).stage ∧
      Course engine.stage.session new (engine.perform call).stage.session := by
  cases call with
  | run list trigger =>
      obtain ⟨new, hw, hpassage⟩ := engine.stage.runList_passage list trigger
      exact ⟨new, hw, .run hpassage⟩
  | input event => exact engine.stage.input_course event
  | cancel =>
      refine ⟨_, engine.stage.writes_cancel, ?_⟩
      rw [show (engine.perform .cancel).stage.session = none from engine.stage.session_cancel]
      exact .aborted _
  | shutdown =>
      refine ⟨_, engine.stage.writes_cancel, ?_⟩
      rw [show (engine.perform .shutdown).stage.session = none from engine.stage.session_cancel]
      exact .aborted _

end Engine

end WindowActions
