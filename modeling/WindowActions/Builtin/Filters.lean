import WindowActions.Vocabulary.Basic

/-!
# The builtin filters

`all` is for every client. `urgent`, `focused`, `iconic` and `closed` test a flag, `desktop` a
number, `title` and `class` a text by a pattern. What patterns mean is for others to say: the two
filters hand over the pattern and test texts by what they get for it.
-/

namespace WindowActions

/-- How patterns are understood. -/
class PatternEngine where
  /-- The test of texts that a pattern stands for, if it is a valid one. -/
  test? : (pattern : String) → Option (String → Bool)

def filterText (name : String) : Option Value → Except (List Warning) String
  | none => .error [.valueRequired name]
  | some (.list _) => .error [.textExpected name]
  | some (.text chars) => .ok chars

/-- The desktop that a text names, unless its number is negative. -/
def desktopOf? (s : String) : Option UInt32 :=
  match amountOf s with
  | .ofNat n => some (UInt32.ofNat n)
  | .negSucc _ => none

/-- The setup of the filter that is for every client. -/
def everythingSetup : FilterInfo → Option Value → Except (List Warning) FilterRule :=
  fun _ _ => .ok .everything

def flagSetup (flag : ClientState → Bool) :
    FilterInfo → Option Value → Except (List Warning) FilterRule :=
  fun _ _ => .ok (.matching fun c => flag c.state)

/-- The setup of the filter that tests the desktop. -/
def desktopSetup : FilterInfo → Option Value → Except (List Warning) FilterRule :=
  fun _ value => do
    match desktopOf? (← filterText "desktop" value) with
    | some desktop => .ok (.matching fun c => c.state.desktop == desktop)
    | none => .error []

/-- The setup of a filter that tests a text by a pattern. -/
def patternSetup [PatternEngine] (name : String) (part : ClientState → String) :
    FilterInfo → Option Value → Except (List Warning) FilterRule :=
  fun _ value => do
    let source ← filterText name value
    match PatternEngine.test? source with
    | some test => .ok (.matching fun c => test (part c.state))
    | none => .error [.invalidPattern name source]

structure FilterEntry where
  name : String
  setup : FilterInfo → Option Value → Except (List Warning) FilterRule

/-- The builtin filters, in the order of their registration. -/
def builtinFilters [PatternEngine] : List FilterEntry := [
  ⟨"all", everythingSetup⟩,
  ⟨"urgent", flagSetup (·.urgent)⟩,
  ⟨"focused", flagSetup (·.focused)⟩,
  ⟨"iconic", flagSetup (·.iconic)⟩,
  ⟨"closed", flagSetup (·.closed)⟩,
  ⟨"desktop", desktopSetup⟩,
  ⟨"title", patternSetup "title" (·.title)⟩,
  ⟨"class", patternSetup "class" (·.className)⟩]

/-- Registers filters one after the other, with a warning for every name that is taken. -/
def FilterRegistry.registerAll (registry : FilterRegistry) :
    List FilterEntry → List Warning × FilterRegistry
  | [] => ([], registry)
  | entry :: entries =>
    match registry.register entry.name entry.setup with
    | (true, registry) => registry.registerAll entries
    | (false, registry) =>
      let (warnings, registry) := registry.registerAll entries
      (.filterTaken entry.name :: warnings, registry)

end WindowActions
