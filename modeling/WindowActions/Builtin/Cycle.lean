import WindowActions.Builtin.Focus

/-!
# Cycling the focus

Every run of a cycle action moves the focus to the next candidate, or the previous one. As long as
modifiers are held this is only a preview: releasing all of those that were held at the start
commits it, the escape key and an abort bring back the focus from before the first preview. The
candidates are collected when the session begins. All actions of one registration share the state
of their cycle.
-/

namespace WindowActions

inductive Direction where
  | forward | backward
deriving DecidableEq, Repr

/-- The place of the candidate to visit next, among `count` of them. -/
def Direction.next (direction : Direction) (count : Nat) (cursor : Option Nat) : Nat :=
  match direction, cursor with
  | forward, some cursor => (cursor + 1) % count
  | backward, some cursor => (cursor + count - 1) % count
  | forward, none => 0
  | backward, none => count - 1

namespace CycleState

/-- The state of a cycle through the clients of a set that have not been asked to close, before
the first preview. -/
def collect (store : ClientStore) (set : ClientSet) : CycleState :=
  let candidates := (set.clients store).filter fun c => !c.state.closed
  { candidates := candidates.map (·.ref)
    focusBefore := store.managed.map fun c => (c.ref, c.state.focused)
    cursor := candidates.findIdx? (·.state.focused) }

def target? (state : CycleState) : Option ClientRef :=
  state.cursor.bind (state.candidates[·]?)

end CycleState

namespace Cycle

variable (slot : Nat)

/-- Focuses the previewed candidate for good, if it is still live. -/
def commit (d : Desktop) : Desktop :=
  match (d.cycles slot).target? with
  | some r => if d.clients.isLive r then d.withClients (·.focus r) else d
  | none => d

/-- Brings back the focus from before the first preview. Clients whose management began later lose
the focus. -/
def revert (d : Desktop) : Desktop :=
  let before := (d.cycles slot).focusBefore
  d.withClients fun store =>
    store.mapManaged fun c => { c.state with focused := (before.lookup c.ref).getD false }

/-- Moves the preview of a cycle with candidates. Without held modifiers it is committed at once.
-/
def advance (direction : Direction) (modifiers : Modifiers) (d : Desktop) : Bool × Desktop :=
  let state := d.cycles slot
  let cursor := direction.next state.candidates.length state.cursor
  let state := { state with cursor := some cursor }
  let d := d.setCycle slot state
  let d :=
    match state.target? with
    | some r =>
      if d.clients.isLive r then d.withClients (·.preview (state.focusBefore.map (·.1)) r) else d
    | none => d
  if modifiers = 0 then (false, commit slot d) else (true, d)

/-- Runs a cycle action: begins a cycle unless there is one, and moves on if there are candidates.
-/
def run (direction : Direction) (set : Option ClientSet) (data : ActionData) (d : Desktop) :
    Bool × Desktop :=
  if (d.cycles slot).candidates.isEmpty then
    match set with
    | none => (false, d)
    | some set =>
      let state := CycleState.collect d.clients set
      let d := d.setCycle slot state
      if state.candidates.isEmpty then (false, d) else advance slot direction data.state d
  else advance slot direction data.state d

/-- The answer of a cycle to input: the escape key reverts, the release of the last modifier from
the start commits, and all other keys are claimed without an effect. -/
def input (initial : Modifiers) (event : InputEvent) (d : Desktop) : InputOutcome × Desktop :=
  match event.kind with
  | .keyPress =>
    if event.detail = escapeKey then (⟨false, true⟩, revert slot d) else (⟨true, true⟩, d)
  | .keyRelease =>
    if event.state &&& initial = 0 then (⟨false, true⟩, commit slot d) else (⟨true, true⟩, d)
  | .buttonPress | .buttonRelease | .motion => (⟨true, false⟩, d)

/-- What a cycle action does. The cycle is the one of its registration. -/
def behavior (direction : Direction) : Behavior where
  run := run slot direction
  input := input slot
  cancel := revert slot
  post d := d.setCycle slot {}

end Cycle

end WindowActions
