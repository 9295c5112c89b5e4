import WindowActions.Engine.Stage

/-!
# Running action lists

The entries of a list run in order until one of them begins a session. A conditional gives the
clients that it has selected to the branch that it chooses, and to nothing behind it. An action
outside of every conditional is for the clients that its definition names.
-/

namespace WindowActions

variable {S : Type} [Seat S]

/-- The clients that an action runs for: those that a conditional around it has selected, or else
those that its definition names. -/
def Action.targetSet (action : Action) (incoming : Option ClientSet) (data : ActionData) :
    Option ClientSet :=
  match incoming with
  | some set => some set
  | none => action.info.defaultSet.clients data

namespace Stage

def call (stage : Stage S) (action : Action) (set : Option ClientSet) (data : ActionData) :
    Bool × Stage S :=
  let (started, desktop) := action.behavior.run set data stage.desktop
  (started, { stage with desktop }.signal (.ran action set data started))

/-- Runs one action, and tells whether a session has begun. -/
def runAction (stage : Stage S) (action : Action) (incoming : Option ClientSet)
    (data : ActionData) : Bool × Stage S :=
  let set := action.targetSet incoming data
  if action.info.interactive then
    match stage.beginSession action data with
    | (false, stage) => (false, stage)
    | (true, stage) =>
      match stage.call action set data with
      | (true, stage) => (true, stage)
      | (false, stage) => (false, stage.endSession)
  else (false, (stage.call action set data).2)

end Stage

def conditionalSet (test : Option TestChain) (accepted : ActionList) (store : ClientStore)
    (incoming : Option ClientSet) (data : ActionData) : ClientSet :=
  match test, incoming with
  | some chain, _ => chain.evaluate store incoming
  | none, some set => set.duplicate store
  | none, none =>
    match accepted with
    | .action action :: _ => (action.info.defaultSet.clients data).getD .empty
    | _ => .all

mutual

/-- Runs one entry, and tells whether a session has begun. -/
def runEntry (stage : Stage S) (incoming : Option ClientSet) (data : ActionData) :
    Entry → Bool × Stage S
  | .action action => stage.runAction action incoming data
  | .conditional test accepted otherwise =>
    let set := conditionalSet test accepted stage.desktop.clients incoming data
    let matched := set.isTrue stage.desktop.clients
    let stage := stage.signal (.tested matched)
    if matched then runEntries stage (some set) data accepted
    else runEntries stage (some set) data otherwise

/-- Runs the entries of a list up to one that begins a session, and tells whether there is one. -/
def runEntries (stage : Stage S) (incoming : Option ClientSet) (data : ActionData) :
    List Entry → Bool × Stage S
  | [] => (false, stage)
  | entry :: entries =>
    match runEntry stage incoming data entry with
    | (true, stage) => (true, stage)
    | (false, stage) => runEntries stage incoming data entries

end

def Trigger.data (trigger : Trigger) (stage : Stage S) : ActionData :=
  let (x, y) := trigger.position.getD (Seat.pointer stage.seat)
  { uact := trigger.uact, state := trigger.state, x, y, button := trigger.button
    context := trigger.context, client := trigger.client
    pointerClient := Seat.clientAt stage.seat stage.desktop.clients x y }

/-- Runs an action list for an event, and tells whether a session has begun. What stands behind
the action that begins it does not run. -/
def Stage.runList (stage : Stage S) (list : ActionList) (trigger : Trigger) : Bool × Stage S :=
  runEntries stage none (trigger.data stage) list

end WindowActions
