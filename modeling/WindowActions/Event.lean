import WindowActions.Client.Basic
import WindowActions.Text.Quoted

/-!
# Events

What the user did, where and with which modifiers, both for running an action list and for input
to an interactive action.
-/

namespace WindowActions

/-- A set of held modifiers, one to a bit. -/
abbrev Modifiers := UInt32

/-- The key that aborts an interactive action. -/
def escapeKey : UInt32 := 9

/-- What the user did to have an action list run. -/
inductive UserAction where
  /-- Nothing: the list runs at startup or by a rule. -/
  | none
  | keyboardPress | mousePress | mouseRelease | mouseClick | mouseDoubleClick | mouseMotion
  | menuSelection
deriving DecidableEq, Repr, Inhabited

/-- The part of the screen that an event happened on. -/
inductive FrameContext where
  | none | desktop | root | client | titlebar | frame | handle | icon | allDesktops | shade
  | iconify | maximize | close | moveResize | dock | menu
deriving DecidableEq, Repr, Inhabited

namespace FrameContext

/-- All contexts, in the order in which messages list them. -/
def allContexts : List FrameContext :=
  [none, desktop, root, client, titlebar, frame, handle, icon, allDesktops, shade, iconify,
    maximize, close, moveResize, dock, menu]

/-- The name of a context in lower case. -/
def name : FrameContext → String
  | none => "none"
  | desktop => "desktop"
  | root => "root"
  | client => "client"
  | titlebar => "titlebar"
  | frame => "frame"
  | handle => "handle"
  | icon => "icon"
  | allDesktops => "alldesktops"
  | shade => "shade"
  | iconify => "iconify"
  | maximize => "maximize"
  | close => "close"
  | moveResize => "moveresize"
  | dock => "dock"
  | menu => "menu"

/-- The lower case of a character as far as names of contexts go. Besides the ASCII capitals only
the Kelvin sign has a lower case that occurs in them. -/
def lowerChar (c : Char) : Char :=
  if c.toNat = 0x212A then 'k' else c.toLower

/-- The context with a name, without regard to case. -/
def ofName? (s : String) : Option FrameContext :=
  allContexts.find? fun context => context.name.toList == s.toList.map lowerChar

/-- The message about a text that names no context. -/
def unknownMessage (s : String) : String :=
  "Got " ++ quoted s ++ ", expected one of none, desktop, root, client, titlebar, frame, " ++
    "handle, icon, alldesktops, shade, iconify, maximize, close, moveresize, dock, or menu"

end FrameContext

/-- An event that an action list runs for. Without a position the pointer's own is taken. -/
structure Trigger where
  uact : UserAction := .none
  state : Modifiers := 0
  position : Option (Int × Int) := none
  button : UInt32 := 0
  context : FrameContext := .none
  client : Option ClientRef := none
deriving DecidableEq, Repr, Inhabited

/-- The event as the actions of a list see it. -/
structure ActionData where
  uact : UserAction
  state : Modifiers
  x : Int
  y : Int
  button : UInt32
  context : FrameContext
  /-- The client that the event was meant for. -/
  client : Option ClientRef
  pointerClient : Option ClientRef
deriving DecidableEq, Repr

inductive InputKind where
  | keyPress | keyRelease | buttonPress | buttonRelease | motion
deriving DecidableEq, Repr

/-- A raw input event for an interactive action. -/
structure InputEvent where
  kind : InputKind
  detail : UInt32
  /-- The modifiers that are held after the event. -/
  state : Modifiers
deriving DecidableEq, Repr

/-- What an interactive action makes of an input event. -/
structure InputOutcome where
  resume : Bool
  /-- The event is not for anybody else. -/
  consumed : Bool
deriving DecidableEq, Repr

end WindowActions
