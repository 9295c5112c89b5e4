import WindowActions.Amount
import WindowActions.Behavior
import WindowActions.Joint

/-!
# Action lists

An action list is what a program becomes once its names have been looked up: actions with their
options and behaviors, and conditionals with their filters. The values of options and filters are
texts or action lists again.
-/

namespace WindowActions

structure FilterInfo where
  /-- The number of the registration. No other filter ever registered has it. -/
  id : Nat
  name : String
deriving DecidableEq, Repr

inductive FilterRule where
  /-- All clients, also those whose management begins later. -/
  | everything
  | matching (test : Client → Bool)

mutual

inductive Value where
  | text (chars : String)
  | list (entries : List Entry)

structure Filter where
  info : FilterInfo
  invert : Bool
  value : Option Value
  rule : FilterRule

/-- A link of a chain of tests. A filter that is not known is for no client. -/
structure Term where
  filter : Option Filter
  joint : Joint

structure Action where
  info : ActionInfo
  /-- The options by their names in lower case, in the order in which they were first given. -/
  options : List (String × Value)
  behavior : Behavior

inductive Entry where
  | action (action : Action)
  /-- Runs one of two lists for the clients that a chain selects. Without a chain the clients are
  those of the first action of the first list. -/
  | conditional (test : Option (List Term)) (accepted otherwise : List Entry)

end

/-- Actions and conditionals in the order in which they run. -/
abbrev ActionList := List Entry

abbrev TestChain := List Term

abbrev Options := List (String × Value)

instance : Inhabited Value := ⟨.text ""⟩

/-- A value is asked for what it is not. -/
inductive Misuse where
  /-- An action list is asked for its text. -/
  | listAsText
  | textAsList (text : String)
deriving DecidableEq, Repr

def Misuse.message : Misuse → String
  | listAsText => "action list value used as string"
  | textAsList s => "string value " ++ quoted s ++ " used as action list"

namespace Value

def isText : Value → Bool
  | .text _ => true
  | .list _ => false

def text? : Value → Option String
  | .text s => some s
  | .list _ => none

def asText : Value → Except Misuse String
  | .text s => .ok s
  | .list _ => .error .listAsText

def asList : Value → Except Misuse ActionList
  | .text s => .error (.textAsList s)
  | .list entries => .ok entries

def boolean (v : Value) : Except Misuse Bool := v.asText.map meansYes

def integer (v : Value) : Except Misuse Int := v.asText.map amountOf

def fraction (v : Value) : Except Misuse Fraction := v.asText.map Fraction.ofText

def gravity (v : Value) : Except Misuse GravityCoordinate := v.asText.map GravityCoordinate.ofText

end Value

namespace Options

/-- Gives an option a value. An option that has one already keeps its place. -/
def insert (options : Options) (name : String) (value : Value) : Options :=
  let key := asciiLower name
  if options.any (·.1 == key) then
    options.map fun option => if option.1 == key then (key, value) else option
  else options ++ [(key, value)]

def get? (options : Options) (name : String) : Option Value :=
  options.lookup (asciiLower name)

def text? (options : Options) (name : String) : Option String :=
  (options.get? name).bind Value.text?

/-- The options that are given one after the other. -/
def ofList (given : List (String × Value)) : Options :=
  given.foldl (fun options option => options.insert option.1 option.2) []

end Options

end WindowActions
