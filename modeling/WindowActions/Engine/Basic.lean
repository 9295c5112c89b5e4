import WindowActions.Builtin.Vocabulary
import WindowActions.Engine.Run
import WindowActions.Vocabulary.Resolve

/-!
# The engine

An engine is a vocabulary to read programs with and a stage to run them on.
-/

namespace WindowActions

structure Engine (S : Type) where
  vocabulary : Vocabulary
  stage : Stage S

namespace Engine

variable {S : Type} [Seat S]

/-- An engine for a seat and clients that does not know any names yet. -/
def ofClients (seat : S) (clients : ClientStore) : Engine S :=
  ⟨.empty, { seat, desktop := { clients } }⟩

def registerBuiltins [PatternEngine] (engine : Engine S) : Engine S :=
  let (warnings, vocabulary) := engine.vocabulary.registerBuiltins
  ⟨vocabulary, engine.stage.withDesktop fun d => warnings.foldl Desktop.warn d⟩

/-- Reads a program, with its warnings given on the desktop. -/
def parse (engine : Engine S) (source : String) : Except ParseFailure ActionList × Engine S :=
  let parsed := engine.vocabulary.parse source
  (parsed.result,
    { engine with stage := engine.stage.withDesktop fun d => parsed.warnings.foldl Desktop.warn d })

/-- Runs an action list for an event, and tells whether a session has begun. -/
def run (engine : Engine S) (list : ActionList) (trigger : Trigger) : Bool × Engine S :=
  let (started, stage) := engine.stage.runList list trigger
  (started, { engine with stage })

/-- Gives an input event to the action of the session, and tells whether it claims it. -/
def input (engine : Engine S) (event : InputEvent) : Bool × Engine S :=
  let (consumed, stage) := engine.stage.input event
  (consumed, { engine with stage })

/-- Aborts the session, if there is one. -/
def cancel (engine : Engine S) : Engine S := { engine with stage := engine.stage.cancel }

/-- Aborts the session and forgets all names. Action lists that have been read stay as they are.
-/
def shutdown (engine : Engine S) : Engine S :=
  ⟨engine.vocabulary.clear, engine.stage.cancel⟩

end Engine

end WindowActions
