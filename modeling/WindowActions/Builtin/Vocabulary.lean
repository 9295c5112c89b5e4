import WindowActions.Builtin.Actions
import WindowActions.Builtin.Filters

/-!
# The builtin vocabulary

All builtin actions and filters together.
-/

namespace WindowActions

namespace Vocabulary

/-- Registers the builtin actions and filters. Names that are taken stay with their owners. -/
def registerBuiltins [PatternEngine] (v : Vocabulary) : List Warning × Vocabulary :=
  let (actionWarnings, actions) := v.actions.registerAll builtinActions
  let (filterWarnings, filters) := v.filters.registerAll builtinFilters
  (actionWarnings ++ filterWarnings, ⟨actions, filters⟩)

/-- The vocabulary without any names. -/
def empty : Vocabulary := {}

/-- The vocabulary of the builtin actions and filters. -/
def builtin [PatternEngine] : Vocabulary := empty.registerBuiltins.2

end Vocabulary

end WindowActions
