import WindowActions.ActionList.Evaluate
import WindowActions.Seat

/-!
# Sessions of interactive actions

At most one interactive action has a session at a time, and while it has one, the keyboard is
grabbed. The stage is the state that running lists, input and aborts have in common. Its journal
tells in order which tests were made, which actions were asked, run and told something, and what
happened to the grab.
-/

namespace WindowActions

structure Session where
  action : Action
  /-- The modifiers that were held when the session began. -/
  initialState : Modifiers

inductive Signal where
  /-- A conditional has chosen its branch: the first one if the selected set was true. -/
  | tested (matched : Bool)
  /-- An action was asked whether its session may begin. -/
  | asked (action : Action) (data : ActionData) (accepted : Bool)
  | grabbed (action : Action) (granted : Bool)
  /-- An action was run for a set of clients, and told whether a session has begun. -/
  | ran (action : Action) (set : Option ClientSet) (data : ActionData) (started : Bool)
  /-- An action got input, together with the modifiers at the beginning of its session. -/
  | gotInput (action : Action) (initial : Modifiers) (event : InputEvent) (outcome : InputOutcome)
  /-- The session of an action was aborted. -/
  | cancelled (action : Action)
  | released (action : Action)
  /-- An action was told that its session is over. -/
  | ended (action : Action)

/-- The state that running lists, input and aborts have in common. -/
structure Stage (S : Type) where
  seat : S
  desktop : Desktop
  session : Option Session := none
  journal : List Signal := []

namespace Stage

variable {S : Type} [Seat S]

def signal (stage : Stage S) (signal : Signal) : Stage S :=
  { stage with journal := stage.journal ++ [signal] }

def withDesktop (stage : Stage S) (f : Desktop → Desktop) : Stage S :=
  { stage with desktop := f stage.desktop }

def withClients (stage : Stage S) (f : ClientStore → ClientStore) : Stage S :=
  stage.withDesktop (·.withClients f)

def isRunning (stage : Stage S) : Bool := stage.session.isSome

/-- Lets go of the keyboard and tells the action of a session that it is over. -/
def close (stage : Stage S) (session : Session) : Stage S :=
  let action := session.action
  let stage := { stage with session := none, seat := Seat.release stage.seat }
  ((stage.signal (.released action)).withDesktop action.behavior.post).signal (.ended action)

/-- Ends the session, if there is one. -/
def endSession (stage : Stage S) : Stage S :=
  match stage.session with
  | none => stage
  | some session => stage.close session

/-- Aborts the session, if there is one. -/
def cancel (stage : Stage S) : Stage S :=
  match stage.session with
  | none => stage
  | some session =>
    ((stage.withDesktop session.action.behavior.cancel).signal
      (.cancelled session.action)).close session

/-- Tells the action of a session about an input event. -/
def hear (stage : Stage S) (session : Session) (event : InputEvent) : InputOutcome × Stage S :=
  let (outcome, desktop) := session.action.behavior.input session.initialState event stage.desktop
  (outcome, { stage with desktop }.signal
    (.gotInput session.action session.initialState event outcome))

/-- Gives an input event to the action of the session, and tells whether it claims it. -/
def input (stage : Stage S) (event : InputEvent) : Bool × Stage S :=
  match stage.session with
  | none => (false, stage)
  | some session =>
    let (outcome, stage) := stage.hear session event
    (outcome.consumed, if outcome.resume then stage else stage.endSession)

/-- Begins the session of an action that no other session is in the way of: asks the action and
grabs the keyboard. -/
def openSession (stage : Stage S) (action : Action) (data : ActionData) : Bool × Stage S :=
  let (accepted, desktop) := action.behavior.pre data.state data stage.desktop
  let stage := { stage with desktop }.signal (.asked action data accepted)
  if accepted then
    let (granted, seat) := Seat.grab stage.seat
    let stage := { stage with seat }.signal (.grabbed action granted)
    if granted then (true, { stage with session := some ⟨action, data.state⟩ })
    else (false, stage.withDesktop (·.warn (.grabRefused action.info.name)))
  else (false, stage)

/-- Makes the session one of the given action, and tells whether it is. An action of the same
registration takes over a session as it is; any other session is aborted first. -/
def beginSession (stage : Stage S) (action : Action) (data : ActionData) : Bool × Stage S :=
  match stage.session with
  | some session =>
    if session.action.info.id = action.info.id then
      (true, { stage with session := some { session with action } })
    else stage.cancel.openSession action data
  | none => stage.openSession action data

end Stage

end WindowActions
