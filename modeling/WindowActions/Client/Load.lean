import WindowActions.Client.Store
import WindowActions.Json.Read

/-!
# Client descriptions in JSON

A client is described by an object with its window and, under names of their own, the parts of its
state. Only the window has to be given. A field may be given once; fields of other names mean
nothing.
-/

namespace WindowActions

def ClientState.fields (s : ClientState) : List (String × Json) :=
  [("title", .string s.title), ("class", .string s.className),
    ("desktop", .natural s.desktop.toNat), ("urgent", .bool s.urgent),
    ("focused", .bool s.focused), ("iconic", .bool s.iconic), ("closed", .bool s.closed)]

def ClientState.toJson (s : ClientState) : Json := .object s.fields

def ClientSpec.toJson (spec : ClientSpec) : Json :=
  .object (("window", .natural spec.window.toNat) :: spec.state.fields)

def ClientSpec.listToJson (specs : List ClientSpec) : Json := .array (specs.map (·.toJson))

def Json.text? : Json → Option String
  | .string s => some s
  | _ => none

def Json.flag? : Json → Option Bool
  | .bool b => some b
  | _ => none

def Json.word? : Json → Option UInt32
  | .integer (.ofNat n) => if n < UInt32.size then some (UInt32.ofNat n) else none
  | _ => none

/-- The value of a field that is given at most once, read by `read`, and `default` if it is not
given. There is no value if the field is given twice or cannot be read. -/
def Json.field {α : Type} (fields : List (String × Json)) (name : String) (read : Json → Option α)
    (default : Option α) : Option α :=
  match fields.filter (·.1 == name) with
  | [] => default
  | [(_, value)] => read value
  | _ => none

/-- The state that the fields of an object describe. -/
def ClientState.ofFields? (fields : List (String × Json)) : Option ClientState := do
  let title ← Json.field fields "title" Json.text? (some "")
  let className ← Json.field fields "class" Json.text? (some "")
  let desktop ← Json.field fields "desktop" Json.word? (some 0)
  let urgent ← Json.field fields "urgent" Json.flag? (some false)
  let focused ← Json.field fields "focused" Json.flag? (some false)
  let iconic ← Json.field fields "iconic" Json.flag? (some false)
  let closed ← Json.field fields "closed" Json.flag? (some false)
  return { title, className, desktop, urgent, focused, iconic, closed }

def ClientSpec.ofJson? : Json → Option ClientSpec
  | .object fields => do
    let window ← Json.field fields "window" Json.word? none
    let state ← ClientState.ofFields? fields
    return ⟨window, state⟩
  | _ => none

def ClientSpec.parseList? (text : String) : Option (List ClientSpec) := do
  match ← Json.parse? text with
  | .array items => items.mapM ClientSpec.ofJson?
  | _ => none

/-- The store that manages the clients of a JSON text. Of two clients with one window it manages
the first. -/
def ClientStore.parse? (text : String) : Option ClientStore :=
  (ClientSpec.parseList? text).map ClientStore.ofSpecs

end WindowActions
