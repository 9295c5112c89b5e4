import WindowActions.ActionList.Basic

/-!
# Action lists in messages

Messages show action lists as nested records on one line, with every field named. Texts stand
between quotes, and what may be missing is `None` or `Some` of something.
-/

namespace WindowActions

def shownList (items : List String) : String :=
  "[" ++ ", ".intercalate items ++ "]"

def shownRecord (name : String) (fields : List (String × String)) : String :=
  let shown := fields.map fun field => field.1 ++ ": " ++ field.2
  name ++ " \x7b " ++ ", ".intercalate shown ++ " \x7d"

/-- Something that may be missing, given as it is shown. -/
def shownOption : Option String → String
  | none => "None"
  | some shown => "Some(" ++ shown ++ ")"

def shownBool (b : Bool) : String := if b then "true" else "false"

/-- A record on one line of which not every field is shown. -/
def shownPart (name : String) (fields : List (String × String)) : String :=
  name ++ " \x7b " ++ String.join (fields.map fun field => field.1 ++ ": " ++ field.2 ++ ", ") ++
    ".. \x7d"

/-- The default set of an action as messages show it. -/
def DefaultSet.shown : DefaultSet → String
  | empty => "Empty"
  | single => "Single"
  | all => "All"

def ActionInfo.shown (info : ActionInfo) : String :=
  shownPart "ActionDefinition" [("name", quoted info.name),
    ("default_filter", info.defaultSet.shown), ("interactive", shownBool info.interactive)]

def FilterInfo.shown (info : FilterInfo) : String :=
  shownPart "FilterDefinition" [("name", quoted info.name)]

def Joint.shown : Joint → String
  | and => "And"
  | or => "Or"

def shownFilter (info : FilterInfo) (invert : Bool) (value : Option String) : String :=
  shownRecord "Filter"
    [("name", quoted info.name), ("invert", shownBool invert), ("value", shownOption value)]

def shownTerm (filter : Option String) (joint : Joint) : String :=
  shownRecord "TestTerm" [("filter", shownOption filter), ("combinator", joint.shown)]

/-- An option table, given its options as they are shown. -/
def shownOptions (options : List String) : String :=
  shownRecord "Options" [("values", "\x7b" ++ ", ".intercalate options ++ "\x7d")]

/-- An action, given its options as they are shown. -/
def shownAction (info : ActionInfo) (options : List String) : String :=
  "Action(" ++
    shownRecord "Action" [("name", quoted info.name), ("options", shownOptions options)] ++ ")"

/-- A conditional, given its parts as they are shown. -/
def shownConditional (terms : Option (List String)) (accepted otherwise : List String) : String :=
  let test := terms.map fun terms => shownRecord "TestChain" [("terms", shownList terms)]
  "Conditional(" ++
    shownRecord "Conditional" [("test", shownOption test), ("then", shownList accepted),
      ("otherwise", shownList otherwise)] ++ ")"

mutual

def Value.shown : Value → String
  | .text s => quoted s
  | .list entries => shownList (shownEntries entries)

def shownEntries : List Entry → List String
  | [] => []
  | .action ⟨info, options, _⟩ :: entries =>
    shownAction info (shownOptionList options) :: shownEntries entries
  | .conditional none accepted otherwise :: entries =>
    shownConditional none (shownEntries accepted) (shownEntries otherwise) :: shownEntries entries
  | .conditional (some terms) accepted otherwise :: entries =>
    shownConditional (some (shownTerms terms)) (shownEntries accepted) (shownEntries otherwise) ::
      shownEntries entries

def shownOptionList : List (String × Value) → List String
  | [] => []
  | (name, value) :: options => (quoted name ++ ": " ++ value.shown) :: shownOptionList options

def shownTerms : List Term → List String
  | [] => []
  | ⟨none, joint⟩ :: terms => shownTerm none joint :: shownTerms terms
  | ⟨some ⟨info, invert, none, _⟩, joint⟩ :: terms =>
    shownTerm (some (shownFilter info invert none)) joint :: shownTerms terms
  | ⟨some ⟨info, invert, some value, _⟩, joint⟩ :: terms =>
    shownTerm (some (shownFilter info invert (some value.shown))) joint :: shownTerms terms

end

def ActionList.shown (list : ActionList) : String := shownList (shownEntries list)

def Options.shown (options : Options) : String := shownOptions (shownOptionList options)

end WindowActions
