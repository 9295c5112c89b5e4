import WindowActions.Client.Store
import WindowActions.Json.Basic
import WindowActions.Warning

/-!
# What actions act on

The desktop is all that an action can see and change: the clients, the state of the focus cycles,
and what it has to tell. Actions that come with the window manager may leave notes for it and read
them again, so the notes are also their memory.
-/

namespace WindowActions

/-- The state of one focus cycle. Outside of a session it is the empty one. -/
structure CycleState where
  /-- The clients in the order in which they are visited. -/
  candidates : List ClientRef := []
  /-- Which clients were focused before the first preview. -/
  focusBefore : List (ClientRef × Bool) := []
  /-- The place of the previewed candidate. -/
  cursor : Option Nat := none
deriving DecidableEq, Repr, Inhabited

structure Desktop where
  clients : ClientStore
  /-- The focus cycle of every action definition, by its number. -/
  cycles : Nat → CycleState := fun _ => {}
  /-- What actions have left for the window manager, the latest last. -/
  notes : List Json := []
  /-- The command lines to start, the latest last. -/
  commands : List String := []
  /-- The warnings given, the latest last. -/
  warnings : List Warning := []

namespace Desktop

def withClients (d : Desktop) (f : ClientStore → ClientStore) : Desktop :=
  { d with clients := f d.clients }

/-- Gives the focus cycle of a definition another state. -/
def setCycle (d : Desktop) (slot : Nat) (state : CycleState) : Desktop :=
  { d with cycles := fun n => if n = slot then state else d.cycles n }

def note (d : Desktop) (note : Json) : Desktop :=
  { d with notes := d.notes ++ [note] }

def warn (d : Desktop) (warning : Warning) : Desktop :=
  { d with warnings := d.warnings ++ [warning] }

def start (d : Desktop) (command : String) : Desktop :=
  { d with commands := d.commands ++ [command] }

@[simp] theorem setCycle_same (d : Desktop) (slot : Nat) (state : CycleState) :
    (d.setCycle slot state).cycles slot = state := by
  simp [setCycle]

theorem setCycle_other (d : Desktop) {slot n : Nat} (h : n ≠ slot) (state : CycleState) :
    (d.setCycle slot state).cycles n = d.cycles n := by
  simp [setCycle, h]

@[simp] theorem clients_setCycle (d : Desktop) (slot : Nat) (state : CycleState) :
    (d.setCycle slot state).clients = d.clients := rfl

@[simp] theorem cycles_withClients (d : Desktop) (f : ClientStore → ClientStore) :
    (d.withClients f).cycles = d.cycles := rfl

end Desktop

end WindowActions
