import Mathlib.Data.List.Nodup
import WindowActions.Builtin.Vocabulary

/-!
# What is registered

No two registrations have the same number, or names that differ in case only: `Distinct` says so of
the numbers and names of a registry, and registering preserves it. So a definition is found under
its name and nothing else is, also in a registry from which other definitions are missing.

A setup ignores lists if all that it looks at are the texts that it is given. Those of the builtin
actions and filters do, also after they have been forgotten and registered again.
-/

namespace WindowActions

/-- The numbers and names of what is registered tell it apart, and numbers to come are new. -/
structure Distinct (named : List (Nat × String)) (nextId : Nat) : Prop where
  names : (named.map fun n => asciiLower n.2).Nodup
  ids : (named.map (·.1)).Nodup
  below : ∀ n ∈ named, n.1 < nextId

theorem Distinct.eq_of_name_eq {named : List (Nat × String)} {nextId : Nat}
    (h : Distinct named nextId) {n m : Nat × String} (hn : n ∈ named) (hm : m ∈ named)
    (hname : n.2 = m.2) : n = m :=
  List.inj_on_of_nodup_map h.names hn hm (congrArg asciiLower hname)

theorem Distinct.nil (nextId : Nat) : Distinct [] nextId :=
  ⟨List.nodup_nil, List.nodup_nil, by simp⟩

theorem Distinct.concat {named : List (Nat × String)} {nextId : Nat} (h : Distinct named nextId)
    {name : String} (hname : ∀ n ∈ named, sameName n.2 name = false) :
    Distinct (named ++ [(nextId, name)]) (nextId + 1) := by
  constructor
  · rw [List.map_append, List.nodup_append]
    refine ⟨h.names, List.nodup_singleton _, ?_⟩
    intro lower hlower other hother heq
    obtain ⟨n, hn, rfl⟩ := List.mem_map.1 hlower
    rw [List.map_singleton, List.mem_singleton] at hother
    have hsame := sameName_iff.2 (heq.trans hother)
    rw [hname n hn] at hsame
    cases hsame
  · rw [List.map_append, List.nodup_append]
    refine ⟨h.ids, List.nodup_singleton _, ?_⟩
    intro id hid other hother heq
    obtain ⟨n, hn, rfl⟩ := List.mem_map.1 hid
    rw [List.map_singleton, List.mem_singleton] at hother
    have hbelow := h.below n hn
    rw [heq.trans hother] at hbelow
    exact Nat.lt_irrefl nextId hbelow
  · intro n hn
    rcases List.mem_append.1 hn with hn | hn
    · exact Nat.lt_succ_of_lt (h.below n hn)
    · rw [List.mem_singleton.1 hn]
      exact Nat.lt_succ_self nextId

namespace ActionRegistry

variable {registry smaller : ActionRegistry}

/-- The number and the name of every definition. -/
def named (registry : ActionRegistry) : List (Nat × String) :=
  registry.definitions.map fun definition => (definition.info.id, definition.info.name)

def IsDistinct (registry : ActionRegistry) : Prop := Distinct registry.named registry.nextId

theorem IsDistinct.clear (registry : ActionRegistry) : registry.clear.IsDistinct :=
  .nil registry.nextId

theorem IsDistinct.register (h : registry.IsDistinct) (name : String) (defaultSet : DefaultSet)
    (interactive : Bool) (setup : ActionInfo → Options → Except Misuse (Option Behavior)) :
    (registry.register name defaultSet interactive setup).2.IsDistinct := by
  rw [ActionRegistry.register]
  split
  case h_1 => exact h
  case h_2 hnone =>
      have hname : ∀ n ∈ registry.named, sameName n.2 name = false := by
        intro n hn
        obtain ⟨definition, hdefinition, rfl⟩ := List.mem_map.1 hn
        simpa using List.find?_eq_none.1 hnone definition hdefinition
      simpa [IsDistinct, named] using h.concat hname

/-- What the registration of every entry preserves is preserved by that of a list. -/
theorem registerAll_induct {P : ActionRegistry → Prop} (registry : ActionRegistry)
    (entries : List ActionEntry)
    (step : ∀ registry, P registry → ∀ entry ∈ entries,
      P (registry.register entry.name entry.defaultSet entry.interactive entry.setup).2)
    (start : P registry) : P (registry.registerAll entries).2 := by
  induction entries generalizing registry with
  | nil => exact start
  | cons entry entries ih =>
      have hfirst := step registry start entry List.mem_cons_self
      have hmore : ∀ registry, P registry → ∀ entry ∈ entries,
          P (registry.register entry.name entry.defaultSet entry.interactive entry.setup).2 :=
        fun registry h entry hentry => step registry h entry (List.mem_cons_of_mem _ hentry)
      rw [registerAll]
      split
      case h_1 next heq =>
          rw [heq] at hfirst
          exact ih _ hmore hfirst
      case h_2 next heq =>
          rw [heq] at hfirst
          exact ih _ hmore hfirst

namespace IsDistinct

variable (h : registry.IsDistinct) {definition other : ActionDefinition}
  (hdefinition : definition ∈ registry.definitions) (hother : other ∈ registry.definitions)

include h hdefinition hother

theorem eq_of_id_eq (heq : definition.info.id = other.info.id) : definition = other := by
  have hids := h.ids
  rw [named, List.map_map] at hids
  exact List.inj_on_of_nodup_map hids hdefinition hother heq

theorem eq_of_sameName {name : String} (hname : sameName definition.info.name name = true)
    (hname' : sameName other.info.name name = true) : definition = other := by
  have hnames := h.names
  rw [named, List.map_map] at hnames
  exact List.inj_on_of_nodup_map hnames hdefinition hother
    ((sameName_iff.1 hname).trans (sameName_iff.1 hname').symm)

end IsDistinct

/-- No definition has the number. -/
def lacks (registry : ActionRegistry) (id : Nat) : Bool :=
  registry.definitions.all (·.info.id != id)

/-- From a registry with some of the definitions those are found that it has. -/
theorem find?_of_sublist (h : registry.IsDistinct)
    (hsub : smaller.definitions.Sublist registry.definitions) (name : String) :
    smaller.find? name =
      (registry.find? name).filter fun definition => !smaller.lacks definition.info.id := by
  cases hfind : registry.find? name with
  | none =>
      refine List.find?_eq_none.2 fun definition hdefinition => ?_
      exact List.find?_eq_none.1 hfind definition (hsub.subset hdefinition)
  | some definition =>
      have hmem : definition ∈ registry.definitions := List.mem_of_find?_eq_some hfind
      have hname : sameName definition.info.name name = true := by
        simpa using List.find?_some hfind
      cases hlacks : smaller.lacks definition.info.id with
      | true =>
          rw [Option.filter_some, if_neg (by simp [hlacks])]
          refine List.find?_eq_none.2 fun other hother hsame => ?_
          obtain rfl := h.eq_of_sameName (hsub.subset hother) hmem hsame hname
          have hid := List.all_eq_true.1 hlacks other hother
          simp at hid
      | false =>
          rw [Option.filter_some, if_pos (by simp [hlacks])]
          obtain ⟨other, hother, hid⟩ := List.all_eq_false.1 hlacks
          rw [bne_iff_ne, not_not] at hid
          obtain rfl := h.eq_of_id_eq (hsub.subset hother) hmem hid
          have hsome : (smaller.find? name).isSome = true :=
            List.find?_isSome.2 ⟨other, hother, hname⟩
          obtain ⟨found, hfound⟩ := Option.isSome_iff_exists.1 hsome
          rw [hfound, h.eq_of_sameName (hsub.subset (List.mem_of_find?_eq_some hfound)) hmem
            (by simpa using List.find?_some hfound) hname]

end ActionRegistry

namespace FilterRegistry

variable {registry : FilterRegistry}

/-- The number and the name of every definition. -/
def named (registry : FilterRegistry) : List (Nat × String) :=
  registry.definitions.map fun definition => (definition.info.id, definition.info.name)

def IsDistinct (registry : FilterRegistry) : Prop := Distinct registry.named registry.nextId

theorem IsDistinct.clear (registry : FilterRegistry) : registry.clear.IsDistinct :=
  .nil registry.nextId

theorem IsDistinct.register (h : registry.IsDistinct) (name : String)
    (setup : FilterInfo → Option Value → Except (List Warning) FilterRule) :
    (registry.register name setup).2.IsDistinct := by
  rw [FilterRegistry.register]
  split
  case h_1 => exact h
  case h_2 hnone =>
      have hname : ∀ n ∈ registry.named, sameName n.2 name = false := by
        intro n hn
        obtain ⟨definition, hdefinition, rfl⟩ := List.mem_map.1 hn
        simpa using List.find?_eq_none.1 hnone definition hdefinition
      simpa [IsDistinct, named] using h.concat hname

theorem IsDistinct.eq_of_id_eq (h : registry.IsDistinct) {definition other : FilterDefinition}
    (hdefinition : definition ∈ registry.definitions) (hother : other ∈ registry.definitions)
    (heq : definition.info.id = other.info.id) : definition = other := by
  have hids := h.ids
  rw [named, List.map_map] at hids
  exact List.inj_on_of_nodup_map hids hdefinition hother heq

/-- What the registration of every entry preserves is preserved by that of a list. -/
theorem registerAll_induct {P : FilterRegistry → Prop} (registry : FilterRegistry)
    (entries : List FilterEntry)
    (step : ∀ registry, P registry → ∀ entry ∈ entries,
      P (registry.register entry.name entry.setup).2)
    (start : P registry) : P (registry.registerAll entries).2 := by
  induction entries generalizing registry with
  | nil => exact start
  | cons entry entries ih =>
      have hfirst := step registry start entry List.mem_cons_self
      have hmore : ∀ registry, P registry → ∀ entry ∈ entries,
          P (registry.register entry.name entry.setup).2 :=
        fun registry h entry hentry => step registry h entry (List.mem_cons_of_mem _ hentry)
      rw [registerAll]
      split
      case h_1 next heq =>
          rw [heq] at hfirst
          exact ih _ hmore hfirst
      case h_2 next heq =>
          rw [heq] at hfirst
          exact ih _ hmore hfirst

end FilterRegistry

section Lists

/-- The options with nothing in the place of each list. -/
def Options.texts (options : Options) : List (String × Option String) :=
  options.map fun option => (option.1, option.2.text?)

theorem Options.lookup_texts (options : Options) (name : String) :
    options.texts.lookup name = (options.lookup name).map (·.text?) := by
  induction options with
  | nil => rfl
  | cons option options ih =>
      obtain ⟨key, value⟩ := option
      simp only [texts, List.map_cons, List.lookup_cons] at ih ⊢
      cases hkey : name == key with
      | true => rfl
      | false => exact ih

theorem Options.text?_eq (options : Options) (name : String) :
    options.text? name = (options.texts.lookup (asciiLower name)).join := by
  rw [text?, get?, lookup_texts]
  cases options.lookup (asciiLower name) <;> rfl

/-- The setup of an action does not depend on what is in the lists that it is given. -/
def ActionDefinition.IgnoresLists (definition : ActionDefinition) : Prop :=
  ∀ options options' : Options, options.texts = options'.texts →
    definition.setup options = definition.setup options'

/-- The setup of a filter does not depend on what is in the list that it is given. -/
def FilterDefinition.IgnoresLists (definition : FilterDefinition) : Prop :=
  ∀ value value' : Option Value, value.map (·.text?) = value'.map (·.text?) →
    definition.setup value = definition.setup value'

theorem filterText_congr (name : String) {value value' : Option Value}
    (h : value.map (·.text?) = value'.map (·.text?)) :
    filterText name value = filterText name value' := by
  rcases value with _ | (s | es) <;> rcases value' with _ | (t | fs) <;> cases h <;> rfl

end Lists

namespace Vocabulary

/-- The names and the numbers of actions and filters tell them apart. -/
structure IsDistinct (v : Vocabulary) : Prop where
  actions : v.actions.IsDistinct
  filters : v.filters.IsDistinct

/-- Nothing but the builtin actions and filters has ever been registered. -/
inductive OnlyBuiltin [PatternEngine] : Vocabulary → Prop
  | empty : OnlyBuiltin Vocabulary.empty
  | registerBuiltins {v : Vocabulary} (h : v.OnlyBuiltin) : OnlyBuiltin v.registerBuiltins.2
  | clear {v : Vocabulary} (h : v.OnlyBuiltin) : OnlyBuiltin v.clear

namespace OnlyBuiltin

variable [PatternEngine] {v : Vocabulary}

theorem builtin : OnlyBuiltin Vocabulary.builtin := .registerBuiltins .empty

theorem distinct (h : v.OnlyBuiltin) : v.IsDistinct := by
  induction h with
  | empty => exact ⟨Distinct.nil 0, Distinct.nil 0⟩
  | @registerBuiltins v _ ih =>
      exact ⟨ActionRegistry.registerAll_induct v.actions builtinActions
          (fun _ h entry _ => h.register entry.name entry.defaultSet entry.interactive entry.setup)
          ih.actions,
        FilterRegistry.registerAll_induct v.filters builtinFilters
          (fun _ h entry _ => h.register entry.name entry.setup) ih.filters⟩
  | @clear v => exact ⟨.clear v.actions, .clear v.filters⟩

/-- Every action is registered as an entry says. -/
theorem exists_actionEntry (h : v.OnlyBuiltin) :
    ∀ definition ∈ v.actions.definitions, ∃ entry ∈ builtinActions, ∃ info,
      definition = ⟨info, entry.setup info⟩ := by
  induction h with
  | empty => rintro definition ⟨⟩
  | @registerBuiltins v _ ih =>
      refine ActionRegistry.registerAll_induct
        (P := fun registry => ∀ definition ∈ registry.definitions, ∃ entry ∈ builtinActions, ∃ info,
          definition = ⟨info, entry.setup info⟩) v.actions builtinActions ?_ ih
      intro registry h entry hentry
      rw [ActionRegistry.register]
      split
      case h_1 => exact h
      case h_2 =>
          intro definition hdefinition
          rcases List.mem_append.1 hdefinition with hdefinition | hdefinition
          · exact h definition hdefinition
          · exact ⟨entry, hentry, _, List.mem_singleton.1 hdefinition⟩
  | clear => rintro definition ⟨⟩

/-- Every filter is registered as an entry says. -/
theorem exists_filterEntry (h : v.OnlyBuiltin) :
    ∀ definition ∈ v.filters.definitions, ∃ entry ∈ builtinFilters, ∃ info,
      definition = ⟨info, entry.setup info⟩ := by
  induction h with
  | empty => rintro definition ⟨⟩
  | @registerBuiltins v _ ih =>
      refine FilterRegistry.registerAll_induct
        (P := fun registry => ∀ definition ∈ registry.definitions, ∃ entry ∈ builtinFilters, ∃ info,
          definition = ⟨info, entry.setup info⟩) v.filters builtinFilters ?_ ih
      intro registry h entry hentry
      rw [FilterRegistry.register]
      split
      case h_1 => exact h
      case h_2 =>
          intro definition hdefinition
          rcases List.mem_append.1 hdefinition with hdefinition | hdefinition
          · exact h definition hdefinition
          · exact ⟨entry, hentry, _, List.mem_singleton.1 hdefinition⟩
  | clear => rintro definition ⟨⟩

/-- All that the setup of an action looks at is the text of the command line. -/
theorem setup_congr (h : v.OnlyBuiltin) {definition : ActionDefinition}
    (hdefinition : definition ∈ v.actions.definitions) {options options' : Options}
    (hcommand : options.text? "command" = options'.text? "command") :
    definition.setup options = definition.setup options' := by
  obtain ⟨entry, hentry, info, rfl⟩ := h.exists_actionEntry definition hdefinition
  simp only [builtinActions, List.mem_cons, List.not_mem_nil, or_false] at hentry
  rcases hentry with rfl | rfl | rfl | rfl | rfl | rfl
  case inr.inr.inr.inl =>
      show executeSetup info options = executeSetup info options'
      rw [executeSetup, executeSetup, hcommand]
  all_goals rfl

theorem actions_ignoreLists (h : v.OnlyBuiltin) :
    ∀ definition ∈ v.actions.definitions, definition.IgnoresLists := by
  intro definition hdefinition options options' htexts
  refine h.setup_congr hdefinition ?_
  rw [Options.text?_eq, Options.text?_eq, htexts]

theorem filters_ignoreLists (h : v.OnlyBuiltin) :
    ∀ definition ∈ v.filters.definitions, definition.IgnoresLists := by
  intro definition hdefinition value value' htexts
  obtain ⟨entry, hentry, info, rfl⟩ := h.exists_filterEntry definition hdefinition
  simp only [builtinFilters, List.mem_cons, List.not_mem_nil, or_false] at hentry
  rcases hentry with rfl | rfl | rfl | rfl | rfl | rfl | rfl | rfl
  case inr.inr.inr.inr.inr.inl =>
      show desktopSetup info value = desktopSetup info value'
      rw [desktopSetup, desktopSetup, filterText_congr "desktop" htexts]
  case inr.inr.inr.inr.inr.inr.inl =>
      show patternSetup "title" _ info value = patternSetup "title" _ info value'
      rw [patternSetup, patternSetup, filterText_congr "title" htexts]
  case inr.inr.inr.inr.inr.inr.inr =>
      show patternSetup "class" _ info value = patternSetup "class" _ info value'
      rw [patternSetup, patternSetup, filterText_congr "class" htexts]
  all_goals rfl

end OnlyBuiltin

end Vocabulary

end WindowActions
