import WindowActions.Engine.Run

/-!
# What the journal tells

A signal in the journal stands for one question to an action or to the seat, or for one thing that
an action is told. `Signal.effect` is what that does to the seat and the desktop, and `replay?`
does all signals of a list one after the other. It fails at the first signal whose answer is not
the one that is given then.

`Stage.Writes before new after` says that a stage has become another one by the signals `new`: they
stand at the end of the journal, and replaying them is all that has happened to the seat and the
desktop. Every operation on a stage has one lemma here that says which signals it writes.
-/

namespace WindowActions

/-- What the engine acts on: the seat and the desktop. -/
abbrev World (S : Type) := S × Desktop

variable {S : Type} [Seat S]

namespace Signal

/-- What happens to the world at a signal. -/
def effect (world : World S) : Signal → World S
  | tested _ => world
  | asked action data _ => (world.1, (action.behavior.pre data.state data world.2).2)
  | grabbed action granted =>
    ((Seat.grab world.1).2,
      if granted then world.2 else world.2.warn (.grabRefused action.info.name))
  | ran action set data _ => (world.1, (action.behavior.run set data world.2).2)
  | gotInput action initial event _ =>
    (world.1, (action.behavior.input initial event world.2).2)
  | cancelled action => (world.1, action.behavior.cancel world.2)
  | released _ => (Seat.release world.1, world.2)
  | ended action => (world.1, action.behavior.post world.2)

/-- Whether the answer that a signal tells is the one that is given. -/
def isGiven (world : World S) : Signal → Bool
  | asked action data accepted => (action.behavior.pre data.state data world.2).1 == accepted
  | grabbed _ granted => (Seat.grab world.1).1 == granted
  | ran action set data started => (action.behavior.run set data world.2).1 == started
  | gotInput action initial event outcome =>
    (action.behavior.input initial event world.2).1 == outcome
  | tested _ | cancelled _ | released _ | ended _ => true

end Signal

/-- The world after the signals of a list; `none` as soon as an answer is another one. -/
def replay? : List Signal → World S → Option (World S)
  | [], world => some world
  | signal :: signals, world =>
    if signal.isGiven world then replay? signals (signal.effect world) else none

@[simp] theorem replay?_nil (world : World S) : replay? [] world = some world := rfl

theorem replay?_cons (signal : Signal) (signals : List Signal) (world : World S) :
    replay? (signal :: signals) world =
      if signal.isGiven world then replay? signals (signal.effect world) else none := rfl

theorem replay?_append (signals more : List Signal) (world : World S) :
    replay? (signals ++ more) world = (replay? signals world).bind (replay? more) := by
  induction signals generalizing world with
  | nil => rfl
  | cons signal signals ih =>
      rw [List.cons_append, replay?_cons, replay?_cons]
      by_cases h : signal.isGiven world = true
      · rw [if_pos h, if_pos h, ih]
      · rw [if_neg h, if_neg h]
        rfl

namespace Stage

/-- The world of a stage. -/
def world (stage : Stage S) : World S := (stage.seat, stage.desktop)

/-- The signals `new` lead from one stage to another: the journal has grown by them, and the
world is what they have made of it. -/
structure Writes (before : Stage S) (new : List Signal) (after : Stage S) : Prop where
  journal : after.journal = before.journal ++ new
  world : replay? new before.world = some after.world

namespace Writes

theorem refl (stage : Stage S) : stage.Writes [] stage :=
  ⟨(List.append_nil _).symm, rfl⟩

theorem trans {first second third : Stage S} {new more : List Signal}
    (h : first.Writes new second) (h' : second.Writes more third) :
    first.Writes (new ++ more) third := by
  constructor
  · rw [h'.journal, h.journal, List.append_assoc]
  · rw [replay?_append, h.world]
    exact h'.world

end Writes

theorem writes_tested (stage : Stage S) (isMatch : Bool) :
    stage.Writes [.tested isMatch] (stage.signal (.tested isMatch)) :=
  ⟨rfl, rfl⟩

theorem writes_call (stage : Stage S) (action : Action) (set : Option ClientSet)
    (data : ActionData) :
    stage.Writes [.ran action set data (stage.call action set data).1]
      (stage.call action set data).2 := by
  refine ⟨rfl, ?_⟩
  rw [replay?_cons, if_pos]
  · rfl
  · exact beq_self_eq_true _

omit [Seat S] in
@[simp] theorem session_call (stage : Stage S) (action : Action) (set : Option ClientSet)
    (data : ActionData) : (stage.call action set data).2.session = stage.session := rfl

theorem writes_hear (stage : Stage S) (session : Session) (event : InputEvent) :
    stage.Writes [.gotInput session.action session.initialState event
      (stage.hear session event).1] (stage.hear session event).2 := by
  refine ⟨rfl, ?_⟩
  rw [replay?_cons, if_pos]
  · rfl
  · exact beq_self_eq_true _

theorem writes_close (stage : Stage S) (session : Session) :
    stage.Writes [.released session.action, .ended session.action] (stage.close session) := by
  refine ⟨?_, rfl⟩
  simp [close, signal, withDesktop]

@[simp] theorem session_close (stage : Stage S) (session : Session) :
    (stage.close session).session = none := rfl

theorem endSession_some {stage : Stage S} {session : Session}
    (h : stage.session = some session) : stage.endSession = stage.close session := by
  rw [endSession, h]

end Stage

/-- The signals of an abort: none if there is no session. -/
def abortSignals : Option Session → List Signal
  | none => []
  | some session =>
    [.cancelled session.action, .released session.action, .ended session.action]

namespace Stage

theorem writes_cancel (stage : Stage S) :
    stage.Writes (abortSignals stage.session) stage.cancel := by
  cases h : stage.session with
  | none =>
      rw [cancel, h]
      exact Writes.refl stage
  | some session =>
      rw [cancel, h]
      refine ⟨?_, rfl⟩
      simp [close, signal, withDesktop, abortSignals]

@[simp] theorem session_cancel (stage : Stage S) : stage.cancel.session = none := by
  cases h : stage.session with
  | none => rw [cancel, h]; exact h
  | some session => rw [cancel, h]; rfl

end Stage

end WindowActions
