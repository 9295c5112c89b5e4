import WindowActions.ActionList.Basic

/-!
# Vocabularies

A vocabulary holds the actions and the filters that programs can name. Names are found without
regard to ASCII case, and no two registered actions differ in case only; the same holds of
filters. Every registration gets a number of its own, also after the vocabulary has been cleared.
-/

namespace WindowActions

/-- A registered action. Its setup makes a behavior from options, unless they are not valid. -/
structure ActionDefinition where
  info : ActionInfo
  setup : Options → Except Misuse (Option Behavior)

/-- A registered filter. Its setup makes a rule from a value, or says why it does not. It does not
see whether the filter stands under `no`: that turns the outcome of every rule around. -/
structure FilterDefinition where
  info : FilterInfo
  setup : Option Value → Except (List Warning) FilterRule

/-- All registered actions, in the order of their registration. -/
structure ActionRegistry where
  definitions : List ActionDefinition := []
  nextId : Nat := 0

/-- All registered filters, in the order of their registration. -/
structure FilterRegistry where
  definitions : List FilterDefinition := []
  nextId : Nat := 0

/-- The actions and filters that programs can name. -/
structure Vocabulary where
  actions : ActionRegistry := {}
  filters : FilterRegistry := {}

namespace ActionRegistry

def find? (registry : ActionRegistry) (name : String) : Option ActionDefinition :=
  registry.definitions.find? fun definition => sameName definition.info.name name

/-- Registers an action unless its name is taken, and tells whether it did. -/
def register (registry : ActionRegistry) (name : String) (defaultSet : DefaultSet)
    (interactive : Bool) (setup : ActionInfo → Options → Except Misuse (Option Behavior)) :
    Bool × ActionRegistry :=
  match registry.find? name with
  | some _ => (false, registry)
  | none =>
    let info : ActionInfo := ⟨registry.nextId, name, defaultSet, interactive⟩
    (true, ⟨registry.definitions ++ [⟨info, setup info⟩], registry.nextId + 1⟩)

def clear (registry : ActionRegistry) : ActionRegistry := ⟨[], registry.nextId⟩

end ActionRegistry

namespace FilterRegistry

def find? (registry : FilterRegistry) (name : String) : Option FilterDefinition :=
  registry.definitions.find? fun definition => sameName definition.info.name name

/-- Registers a filter unless its name is taken, and tells whether it did. -/
def register (registry : FilterRegistry) (name : String)
    (setup : FilterInfo → Option Value → Except (List Warning) FilterRule) :
    Bool × FilterRegistry :=
  match registry.find? name with
  | some _ => (false, registry)
  | none =>
    let info : FilterInfo := ⟨registry.nextId, name⟩
    (true, ⟨registry.definitions ++ [⟨info, setup info⟩], registry.nextId + 1⟩)

/-- Registers a filter for the clients that pass a test, whatever its value is. -/
def registerTest (registry : FilterRegistry) (name : String) (test : Client → Bool) :
    Bool × FilterRegistry :=
  registry.register name fun _ _ => .ok (.matching test)

def clear (registry : FilterRegistry) : FilterRegistry := ⟨[], registry.nextId⟩

end FilterRegistry

def Vocabulary.clear (v : Vocabulary) : Vocabulary := ⟨v.actions.clear, v.filters.clear⟩

end WindowActions
