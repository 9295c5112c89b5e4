import WindowActions.Builtin.Cycle
import WindowActions.Vocabulary.Basic

/-!
# The builtin actions

`Close` asks clients to close, `Activate` focuses the first of them, `Iconify` turns them into
icons, `Execute` has a command line started, and `NextWindow` and `PreviousWindow` cycle the
focus.
-/

namespace WindowActions

/-- A behavior that is not interactive. -/
def Behavior.simple (run : Option ClientSet → Desktop → Desktop) : Behavior where
  run set _ d := (false, run set d)

/-- The references to the live clients that an action is for. -/
def targets (set : Option ClientSet) (store : ClientStore) : List ClientRef :=
  match set with
  | some set => (set.clients store).map (·.ref)
  | none => []

/-- Changes the states of the clients that an action is for. -/
def Desktop.changeTargets (d : Desktop) (set : Option ClientSet)
    (f : ClientState → ClientState) : Desktop :=
  let refs := targets set d.clients
  d.withClients (·.mapLive fun c => if c.ref ∈ refs then f c.state else c.state)

def closeBehavior : Behavior :=
  .simple fun set d => d.changeTargets set fun state => { state with closed := true }

def activateBehavior : Behavior :=
  .simple fun set d =>
    match targets set d.clients with
    | r :: _ => d.withClients (·.focus r)
    | [] => d

/-- Turns clients into icons, which cannot be focused. -/
def iconifyBehavior : Behavior :=
  .simple fun set d =>
    d.changeTargets set fun state => { state with iconic := true, focused := false }

def executeBehavior (command : String) : Behavior :=
  .simple fun _ d =>
    if command.toList.contains '\x00' then d.warn (.commandHasZero command) else d.start command

def plainSetup (behavior : ActionInfo → Behavior) :
    ActionInfo → Options → Except Misuse (Option Behavior) :=
  fun info _ => .ok (some (behavior info))

/-- The setup of an action that needs a command line. -/
def executeSetup : ActionInfo → Options → Except Misuse (Option Behavior) :=
  fun _ options => .ok ((options.text? "command").map executeBehavior)

structure ActionEntry where
  name : String
  defaultSet : DefaultSet
  interactive : Bool
  setup : ActionInfo → Options → Except Misuse (Option Behavior)

/-- The builtin actions, in the order of their registration. -/
def builtinActions : List ActionEntry := [
  ⟨"Close", .single, false, plainSetup fun _ => closeBehavior⟩,
  ⟨"Activate", .single, false, plainSetup fun _ => activateBehavior⟩,
  ⟨"Iconify", .single, false, plainSetup fun _ => iconifyBehavior⟩,
  ⟨"Execute", .empty, false, executeSetup⟩,
  ⟨"NextWindow", .all, true, plainSetup fun info => Cycle.behavior info.id .forward⟩,
  ⟨"PreviousWindow", .all, true, plainSetup fun info => Cycle.behavior info.id .backward⟩]

/-- Registers actions one after the other, with a warning for every name that is taken. -/
def ActionRegistry.registerAll (registry : ActionRegistry) :
    List ActionEntry → List Warning × ActionRegistry
  | [] => ([], registry)
  | entry :: entries =>
    match registry.register entry.name entry.defaultSet entry.interactive entry.setup with
    | (true, registry) => registry.registerAll entries
    | (false, registry) =>
      let (warnings, registry) := registry.registerAll entries
      (.actionTaken entry.name :: warnings, registry)

end WindowActions
