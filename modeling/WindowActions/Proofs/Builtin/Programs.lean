import WindowActions.Builtin.Vocabulary
import WindowActions.Proofs.Builtin.Actions
import WindowActions.Proofs.Builtin.Filters
import WindowActions.Proofs.Program.Meaning
import WindowActions.Proofs.Session.Lockstep
import WindowActions.Proofs.Vocabulary.Registered

/-!
# Programs of builtin actions

A program runs only actions that the definitions of its vocabulary make, and tests only filters that
they make. So what is known of lists of builtin actions and filters is known of all programs that
are read with the builtin vocabulary.
-/

namespace WindowActions

theorem entriesOnly_append {p : Action → Prop} {entries more : List Entry}
    (h : entriesOnly p entries) (hmore : entriesOnly p more) : entriesOnly p (entries ++ more) := by
  induction entries with
  | nil => exact hmore
  | cons entry entries ih =>
      rw [entriesOnly] at h
      rw [List.cons_append, entriesOnly]
      exact ⟨h.1, ih h.2⟩

theorem entriesTest_append {q : Filter → Prop} {entries more : List Entry}
    (h : entriesTest q entries) (hmore : entriesTest q more) : entriesTest q (entries ++ more) := by
  induction entries with
  | nil => exact hmore
  | cons entry entries ih =>
      rw [entriesTest] at h
      rw [List.cons_append, entriesTest]
      exact ⟨h.1, ih h.2⟩

/-- Everything that the entry makes under a number has a property. -/
def ActionEntry.Makes (entry : ActionEntry) (p : Action → Prop) : Prop :=
  ∀ id options behavior,
    entry.setup ⟨id, entry.name, entry.defaultSet, entry.interactive⟩ options =
        .ok (some behavior) →
      p ⟨⟨id, entry.name, entry.defaultSet, entry.interactive⟩, options, behavior⟩

/-- Everything that a definition of the registry makes has a property. -/
def ActionRegistry.Makes (registry : ActionRegistry) (p : Action → Prop) : Prop :=
  ∀ definition ∈ registry.definitions, ∀ options behavior,
    definition.setup options = .ok (some behavior) → p ⟨definition.info, options, behavior⟩

/-- Every filter that the entry makes under a number has a property. -/
def FilterEntry.Makes (entry : FilterEntry) (q : Filter → Prop) : Prop :=
  ∀ id invert value rule, entry.setup ⟨id, entry.name⟩ value = .ok rule →
    q ⟨⟨id, entry.name⟩, invert, value, rule⟩

/-- Every filter that a definition of the registry makes has a property. -/
def FilterRegistry.Makes (registry : FilterRegistry) (q : Filter → Prop) : Prop :=
  ∀ definition ∈ registry.definitions, ∀ invert value rule,
    definition.setup value = .ok rule → q ⟨definition.info, invert, value, rule⟩

namespace Vocabulary

variable {v : Vocabulary} {p : Action → Prop} {q : Filter → Prop}

theorem only_entriesOfAction (h : v.actions.Makes p) (name : String) (options : Options) :
    entriesOnly p (v.entriesOfAction name options) := by
  rw [entriesOfAction]
  split
  case h_1 => trivial
  case h_2 definition hfind =>
      split
      case h_1 behavior hsetup =>
          exact ⟨h definition (List.mem_of_find?_eq_some hfind) options behavior hsetup, trivial⟩
      case h_2 => trivial

mutual

theorem only_entriesOfStatement (h : v.actions.Makes p) :
    ∀ statement, entriesOnly p (v.entriesOfStatement statement)
  | .action name options => by
      rw [entriesOfStatement]
      exact only_entriesOfAction h name _
  | .block body => by
      rw [entriesOfStatement]
      exact only_entriesOf h body
  | .conditional test accepted otherwise => by
      rw [entriesOfStatement, entriesOnly, Entry.Only]
      exact ⟨⟨only_entriesOfStatement h accepted, only_entriesOfOtherwise h otherwise⟩, trivial⟩

theorem only_entriesOfOtherwise (h : v.actions.Makes p) :
    ∀ otherwise, entriesOnly p (v.entriesOfOtherwise otherwise)
  | none => by
      rw [entriesOfOtherwise]
      trivial
  | some statement => by
      rw [entriesOfOtherwise]
      exact only_entriesOfStatement h statement

theorem only_entriesOf (h : v.actions.Makes p) : ∀ body, entriesOnly p (v.entriesOf body)
  | [] => by
      rw [entriesOf]
      trivial
  | statement :: body => by
      rw [entriesOf]
      exact entriesOnly_append (only_entriesOfStatement h statement) (only_entriesOf h body)

end

/-- A program that is read runs only what its vocabulary makes. -/
theorem only_parse (h : v.actions.Makes p) {source : String} {list : ActionList}
    (hparse : (v.parse source).result = .ok list) : entriesOnly p list := by
  obtain ⟨program, rfl⟩ := v.exists_eq_entriesOf hparse
  exact only_entriesOf h program

theorem tests_entriesOfAction (name : String) (options : Options) :
    entriesTest q (v.entriesOfAction name options) := by
  rw [entriesOfAction]
  split
  case h_1 => trivial
  case h_2 =>
      split
      case h_1 => exact ⟨trivial, trivial⟩
      case h_2 => trivial

theorem only_filterOf (h : v.filters.Makes q) {key : String} {value : Option Value} {f : Filter}
    (hf : v.filterOf key value = some f) : q f := by
  rw [filterOf] at hf
  split at hf
  case h_1 => cases hf
  case h_2 definition invert hfound =>
      split at hf
      case h_1 rule hsetup =>
          cases hf
          exact h definition (mem_of_findFilter? hfound) invert value rule hsetup
      case h_2 => cases hf

theorem only_termsOf (h : v.filters.Makes q) (tests : List Test) :
    TestChain.Only q (v.termsOf tests) := by
  induction tests with
  | nil =>
      rw [termsOf]
      rintro term ⟨⟩
  | cons test tests ih =>
      obtain ⟨key, operand, joint⟩ := test
      rw [termsOf]
      exact List.forall_mem_cons.2 ⟨fun f hf => only_filterOf h hf, ih⟩

theorem only_chainOf (h : v.filters.Makes q) (test : Option (List Test)) :
    ∀ chain ∈ v.chainOf test, TestChain.Only q chain := by
  cases test with
  | none =>
      rw [chainOf]
      rintro chain ⟨⟩
  | some tests =>
      rw [chainOf]
      rintro chain ⟨⟩
      exact only_termsOf h tests

mutual

theorem tests_entriesOfStatement (h : v.filters.Makes q) :
    ∀ statement, entriesTest q (v.entriesOfStatement statement)
  | .action name options => by
      rw [entriesOfStatement]
      exact tests_entriesOfAction name _
  | .block body => by
      rw [entriesOfStatement]
      exact tests_entriesOf h body
  | .conditional test accepted otherwise => by
      rw [entriesOfStatement, entriesTest, Entry.Tests]
      exact ⟨⟨only_chainOf h test, tests_entriesOfStatement h accepted,
        tests_entriesOfOtherwise h otherwise⟩, trivial⟩

theorem tests_entriesOfOtherwise (h : v.filters.Makes q) :
    ∀ otherwise, entriesTest q (v.entriesOfOtherwise otherwise)
  | none => by
      rw [entriesOfOtherwise]
      trivial
  | some statement => by
      rw [entriesOfOtherwise]
      exact tests_entriesOfStatement h statement

theorem tests_entriesOf (h : v.filters.Makes q) : ∀ body, entriesTest q (v.entriesOf body)
  | [] => by
      rw [entriesOf]
      trivial
  | statement :: body => by
      rw [entriesOf]
      exact entriesTest_append (tests_entriesOfStatement h statement) (tests_entriesOf h body)

end

/-- A program that is read tests only what its vocabulary makes. -/
theorem tests_parse (h : v.filters.Makes q) {source : String} {list : ActionList}
    (hparse : (v.parse source).result = .ok list) : entriesTest q list := by
  obtain ⟨program, rfl⟩ := v.exists_eq_entriesOf hparse
  exact tests_entriesOf h program

end Vocabulary

namespace ActionRegistry

variable {p : Action → Prop}

theorem Makes.register {registry : ActionRegistry} (h : registry.Makes p) {entry : ActionEntry}
    (hentry : entry.Makes p) :
    (registry.register entry.name entry.defaultSet entry.interactive entry.setup).2.Makes p := by
  rw [ActionRegistry.register]
  split
  · exact h
  · intro definition hdefinition options behavior hsetup
    rcases List.mem_append.1 hdefinition with hdefinition | hdefinition
    · exact h definition hdefinition options behavior hsetup
    · rw [List.mem_singleton] at hdefinition
      subst hdefinition
      exact hentry registry.nextId options behavior hsetup

theorem Makes.registerAll {registry : ActionRegistry} (h : registry.Makes p)
    {entries : List ActionEntry} (hentries : ∀ entry ∈ entries, entry.Makes p) :
    (registry.registerAll entries).2.Makes p :=
  registerAll_induct (P := (·.Makes p)) registry entries
    (fun _ h entry hentry => h.register (hentries entry hentry)) h

end ActionRegistry

namespace FilterRegistry

variable {q : Filter → Prop}

theorem Makes.register {registry : FilterRegistry} (h : registry.Makes q) {entry : FilterEntry}
    (hentry : entry.Makes q) : (registry.register entry.name entry.setup).2.Makes q := by
  rw [FilterRegistry.register]
  split
  · exact h
  · intro definition hdefinition invert value rule hsetup
    rcases List.mem_append.1 hdefinition with hdefinition | hdefinition
    · exact h definition hdefinition invert value rule hsetup
    · rw [List.mem_singleton] at hdefinition
      subst hdefinition
      exact hentry registry.nextId invert value rule hsetup

theorem Makes.registerAll {registry : FilterRegistry} (h : registry.Makes q)
    {entries : List FilterEntry} (hentries : ∀ entry ∈ entries, entry.Makes q) :
    (registry.registerAll entries).2.Makes q :=
  registerAll_induct (P := (·.Makes q)) registry entries
    (fun _ h entry hentry => h.register (hentries entry hentry)) h

end FilterRegistry

namespace Vocabulary

theorem makes_builtin [PatternEngine] : builtin.actions.Makes Action.IsBuiltin := by
  have hempty : empty.actions.Makes Action.IsBuiltin := by
    intro definition hdefinition
    cases hdefinition
  have hentries : ∀ entry ∈ builtinActions, entry.Makes Action.IsBuiltin :=
    fun entry hentry id options behavior hsetup => ⟨entry, hentry, rfl, rfl, rfl, hsetup⟩
  exact hempty.registerAll hentries

/-- A program that is read with the builtin vocabulary runs builtin actions only. -/
theorem parse_builtin [PatternEngine] {source : String} {list : ActionList}
    (h : (builtin.parse source).result = .ok list) : entriesOnly Action.IsBuiltin list :=
  only_parse makes_builtin h

theorem makes_builtin_filters [PatternEngine] : builtin.filters.Makes Filter.IsBuiltin := by
  have hempty : empty.filters.Makes Filter.IsBuiltin := by
    intro definition hdefinition
    cases hdefinition
  have hentries : ∀ entry ∈ builtinFilters, entry.Makes Filter.IsBuiltin :=
    fun entry hentry id invert value rule hsetup => ⟨entry, hentry, rfl, hsetup⟩
  exact hempty.registerAll hentries

/-- A program that is read with the builtin vocabulary tests builtin filters only. -/
theorem parse_builtin_filters [PatternEngine] {source : String} {list : ActionList}
    (h : (builtin.parse source).result = .ok list) : entriesTest Filter.IsBuiltin list :=
  tests_parse makes_builtin_filters h

end Vocabulary

end WindowActions
