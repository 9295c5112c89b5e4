import WindowActions.ActionList.Basic
import WindowActions.Json.Write

/-!
# Action lists in JSON

An action is an object of its name and its options, a conditional one of its test and its
branches. A term tells whether it is joined by `and`; a filter that is not known is `null`, and so
is the test of a conditional without a chain.
-/

namespace WindowActions

def filterToJson (info : FilterInfo) (invert : Bool) (value : Json) : Json :=
  .object [("filter", .string info.name), ("invert", .bool invert), ("value", value)]

mutual

def Value.toJson : Value → Json
  | .text s => .string s
  | .list entries => .array (entriesToJson entries)

def entriesToJson : List Entry → List Json
  | [] => []
  | .action ⟨info, options, _⟩ :: entries =>
    .object [("action", .string info.name), ("options", .object (optionsToJson options))] ::
      entriesToJson entries
  | .conditional none accepted otherwise :: entries =>
    .object [("test", .null), ("then", .array (entriesToJson accepted)),
      ("else", .array (entriesToJson otherwise))] :: entriesToJson entries
  | .conditional (some terms) accepted otherwise :: entries =>
    .object [("test", .array (termsToJson terms)), ("then", .array (entriesToJson accepted)),
      ("else", .array (entriesToJson otherwise))] :: entriesToJson entries

def optionsToJson : List (String × Value) → List (String × Json)
  | [] => []
  | (name, value) :: options => (name, value.toJson) :: optionsToJson options

def termsToJson : List Term → List Json
  | [] => []
  | ⟨none, joint⟩ :: terms =>
    .object [("test", .null), ("and", .bool (joint == .and))] :: termsToJson terms
  | ⟨some ⟨info, invert, none, _⟩, joint⟩ :: terms =>
    .object [("test", filterToJson info invert .null), ("and", .bool (joint == .and))] ::
      termsToJson terms
  | ⟨some ⟨info, invert, some value, _⟩, joint⟩ :: terms =>
    .object [("test", filterToJson info invert value.toJson), ("and", .bool (joint == .and))] ::
      termsToJson terms

end

def ActionList.toJson (list : ActionList) : Json := .array (entriesToJson list)

def Options.toJson (options : Options) : Json := .object (optionsToJson options)

end WindowActions
