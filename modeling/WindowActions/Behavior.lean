import WindowActions.ClientSet.Basic
import WindowActions.Desktop
import WindowActions.Event

/-!
# What actions do

The behavior of an action is a few functions on the desktop. Every action can be run. An
interactive one is also asked before its session begins, gets the input of the session, and is
told when the session is aborted and when it is over. What is not given agrees to begin, ends the
session at the first input without claiming it, and does nothing else.
-/

namespace WindowActions

structure Behavior where
  /-- Runs the action for a set of clients. The truth value tells whether a session has begun. -/
  run : Option ClientSet → ActionData → Desktop → Bool × Desktop
  pre : Modifiers → ActionData → Desktop → Bool × Desktop := fun _ _ d => (true, d)
  /-- Input during the session, together with the modifiers at its beginning. -/
  input : Modifiers → InputEvent → Desktop → InputOutcome × Desktop :=
    fun _ _ d => (⟨false, false⟩, d)
  cancel : Desktop → Desktop := id
  post : Desktop → Desktop := id

/-- The clients that an action is for outside of every conditional. -/
inductive DefaultSet where
  | empty
  /-- The client that the event was meant for. -/
  | single
  | all
deriving DecidableEq, Repr

/-- The clients that an event gives to an action outside of every conditional. Without a client
that the event was meant for there is no set for it. -/
def DefaultSet.clients (defaultSet : DefaultSet) (data : ActionData) : Option ClientSet :=
  match defaultSet with
  | empty => some .empty
  | single => data.client.map .single
  | all => some .all

/-- What identifies a registered action and what the engine has to know about it. -/
structure ActionInfo where
  /-- The number of the registration. No other action ever registered has it. -/
  id : Nat
  name : String
  defaultSet : DefaultSet
  /-- Whether the action can begin a session. -/
  interactive : Bool
deriving DecidableEq, Repr

end WindowActions
