import Mathlib.Data.List.Nodup
import Mathlib.Data.List.Perm.Subperm
import WindowActions.Proofs.Program.Meaning

/-!
# What a vocabulary makes

All actions and filters of a list that has been read are made by the vocabulary that it was read
with, also those in the lists that are values of options and filters. An action is made of options
with names of their own. So what it is told in two tables of the same options in different orders
is the same.
-/

namespace WindowActions

namespace Options

/-- No two options have the same name. -/
def IsTable (options : Options) : Prop := (options.map (·.1)).Nodup

variable {options others : Options}

theorem IsTable.insert (h : options.IsTable) (name : String) (value : Value) :
    (options.insert name value).IsTable := by
  rw [IsTable, names_insert]
  by_cases hmem : asciiLower name ∈ options.map (·.1)
  · rw [if_pos hmem]
    exact h
  · rw [if_neg hmem]
    exact List.nodup_append.2 ⟨h, List.nodup_singleton _, by
      rintro key hkey _ hother rfl
      exact hmem (List.mem_singleton.1 hother ▸ hkey)⟩

theorem isTable_ofList (given : List (String × Value)) : (ofList given).IsTable :=
  List.foldlRecOn given _ List.nodup_nil fun _ h option _ => h.insert option.1 option.2

theorem mem_insert {name : String} {value : Value} {option : String × Value}
    (h : option ∈ options.insert name value) : option.2 = value ∨ option ∈ options := by
  rw [Options.insert] at h
  split at h
  case isTrue =>
      obtain ⟨before, hbefore, rfl⟩ := List.mem_map.1 h
      split
      · exact Or.inl rfl
      · exact Or.inr hbefore
  case isFalse =>
      rcases List.mem_append.1 h with h | h
      · exact Or.inr h
      · rw [List.mem_singleton.1 h]
        exact Or.inl rfl

/-- Every value of a table is among the values that are given. -/
theorem forall_ofList {P : Value → Prop} {given : List (String × Value)}
    (h : ∀ option ∈ given, P option.2) : ∀ option ∈ ofList given, P option.2 := by
  refine List.foldlRecOn (motive := fun options : Options => ∀ option ∈ options, P option.2)
    given _ (fun option hoption => absurd hoption List.not_mem_nil) ?_
  intro options hoptions first hfirst option hoption
  rcases mem_insert hoption with hvalue | hoption
  · rw [hvalue]
    exact h first hfirst
  · exact hoptions option hoption

theorem IsTable.lookup_eq_some (h : options.IsTable) {option : String × Value}
    (hoption : option ∈ options) : options.lookup option.1 = some option.2 := by
  obtain ⟨earlier, later, rfl⟩ := List.append_of_mem hoption
  refine List.lookup_eq_some_iff.2 ⟨earlier, later, rfl, fun other hother => ?_⟩
  rw [IsTable, List.map_append, List.nodup_append] at h
  have hne := h.2.2 other.1 (List.mem_map_of_mem hother) option.1 (by simp)
  simpa using hne.symm

/-- Two tables of as many options have the same names if those of one are among those of the other.
-/
theorem IsTable.names_perm (h : options.IsTable) (hlength : options.length = others.length)
    (hwithin : ∀ option ∈ options, (others.lookup option.1).isSome = true) :
    (options.map (·.1)).Perm (others.map (·.1)) := by
  have hsub : options.map (·.1) ⊆ others.map (·.1) := by
    intro name hname
    obtain ⟨option, hoption, rfl⟩ := List.mem_map.1 hname
    obtain ⟨other, hother, hsame⟩ := List.lookup_isSome_iff.1 (hwithin option hoption)
    rw [beq_iff_eq.1 hsame]
    exact List.mem_map_of_mem hother
  have hcount : (others.map (·.1)).length = (options.map (·.1)).length := by
    rw [List.length_map, List.length_map, hlength]
  exact (h.subperm hsub).perm_of_length_le (Nat.le_of_eq hcount)

end Options

/-- A definition of the vocabulary has made the action of a table of options. -/
structure Action.MadeBy (v : Vocabulary) (action : Action) : Prop where
  isTable : Options.IsTable action.options
  exists_definition : ∃ definition ∈ v.actions.definitions, definition.info = action.info ∧
    definition.setup action.options = .ok (some action.behavior)

/-- A definition of the vocabulary has made the filter of its value. -/
def Filter.MadeBy (v : Vocabulary) (f : Filter) : Prop :=
  ∃ definition ∈ v.filters.definitions, definition.info = f.info ∧
    definition.setup f.value = .ok f.rule

mutual

/-- All actions and filters in the value, at every depth, are made by the vocabulary. -/
def Value.MadeBy (v : Vocabulary) : Value → Prop
  | .text _ => True
  | .list entries => entriesMadeBy v entries

/-- All actions and filters in the entries, at every depth, are made by the vocabulary. -/
def entriesMadeBy (v : Vocabulary) : List Entry → Prop
  | [] => True
  | .action ⟨info, options, behavior⟩ :: entries =>
    Action.MadeBy v ⟨info, options, behavior⟩ ∧ optionsMadeBy v options ∧ entriesMadeBy v entries
  | .conditional none accepted otherwise :: entries =>
    entriesMadeBy v accepted ∧ entriesMadeBy v otherwise ∧ entriesMadeBy v entries
  | .conditional (some terms) accepted otherwise :: entries =>
    termsMadeBy v terms ∧ entriesMadeBy v accepted ∧ entriesMadeBy v otherwise ∧
      entriesMadeBy v entries

def optionsMadeBy (v : Vocabulary) : List (String × Value) → Prop
  | [] => True
  | (_, value) :: options => value.MadeBy v ∧ optionsMadeBy v options

def termsMadeBy (v : Vocabulary) : List Term → Prop
  | [] => True
  | ⟨none, _⟩ :: terms => termsMadeBy v terms
  | ⟨some ⟨info, invert, none, rule⟩, _⟩ :: terms =>
    Filter.MadeBy v ⟨info, invert, none, rule⟩ ∧ termsMadeBy v terms
  | ⟨some ⟨info, invert, some value, rule⟩, _⟩ :: terms =>
    Filter.MadeBy v ⟨info, invert, some value, rule⟩ ∧ value.MadeBy v ∧ termsMadeBy v terms

end

section Made

variable {v : Vocabulary}

theorem optionsMadeBy_iff {options : List (String × Value)} :
    optionsMadeBy v options ↔ ∀ option ∈ options, option.2.MadeBy v := by
  induction options with
  | nil => simp [optionsMadeBy]
  | cons option options ih => rw [optionsMadeBy, ih, List.forall_mem_cons]

theorem termsMadeBy_cons {filter : Option Filter} {joint : Joint} {terms : List Term}
    (hfilter : ∀ f ∈ filter, f.MadeBy v ∧ ∀ value ∈ f.value, value.MadeBy v)
    (hterms : termsMadeBy v terms) : termsMadeBy v (⟨filter, joint⟩ :: terms) := by
  match filter with
  | none => rwa [termsMadeBy]
  | some ⟨info, invert, none, rule⟩ =>
      rw [termsMadeBy]
      exact ⟨(hfilter _ rfl).1, hterms⟩
  | some ⟨info, invert, some value, rule⟩ =>
      rw [termsMadeBy]
      exact ⟨(hfilter _ rfl).1, (hfilter _ rfl).2 value rfl, hterms⟩

theorem entriesMadeBy_append {entries more : List Entry} (h : entriesMadeBy v entries)
    (hmore : entriesMadeBy v more) : entriesMadeBy v (entries ++ more) := by
  induction entries with
  | nil => exact hmore
  | cons entry entries ih =>
      rw [List.cons_append]
      match entry with
      | .action ⟨info, options, behavior⟩ =>
          rw [entriesMadeBy] at h ⊢
          exact ⟨h.1, h.2.1, ih h.2.2⟩
      | .conditional none accepted otherwise =>
          rw [entriesMadeBy] at h ⊢
          exact ⟨h.1, h.2.1, ih h.2.2⟩
      | .conditional (some terms) accepted otherwise =>
          rw [entriesMadeBy] at h ⊢
          exact ⟨h.1, h.2.1, h.2.2.1, ih h.2.2.2⟩

end Made

namespace Vocabulary

variable {v : Vocabulary}

theorem entriesOfAction_madeBy {name : String} {given : List (String × Value)}
    (h : optionsMadeBy v given) :
    entriesMadeBy v (v.entriesOfAction name (Options.ofList given)) := by
  have hvalues := Options.forall_ofList (optionsMadeBy_iff.1 h)
  rw [entriesOfAction]
  split
  case h_1 => trivial
  case h_2 definition hfind =>
      split
      case h_1 behavior hsetup =>
          rw [entriesMadeBy]
          exact ⟨⟨Options.isTable_ofList given,
            definition, List.mem_of_find?_eq_some hfind, rfl, hsetup⟩,
            optionsMadeBy_iff.2 hvalues, trivial⟩
      case h_2 => trivial

theorem filterOf_madeBy {key : String} {value : Option Value}
    (h : ∀ given ∈ value, given.MadeBy v) :
    ∀ f ∈ v.filterOf key value, f.MadeBy v ∧ ∀ given ∈ f.value, given.MadeBy v := by
  intro f hf
  rw [filterOf] at hf
  split at hf
  case h_1 => cases hf
  case h_2 definition invert hfound =>
      split at hf
      case h_1 rule hsetup =>
          cases hf
          exact ⟨⟨definition, mem_of_findFilter? hfound, rfl, hsetup⟩, h⟩
      case h_2 => cases hf

mutual

theorem valueOf_madeBy : ∀ operand : Operand, (v.valueOf operand).MadeBy v
  | .text chars => trivial
  | .list body => by
      rw [valueOf, Value.MadeBy]
      exact entriesOf_madeBy body

theorem entriesOfStatement_madeBy :
    ∀ statement : Statement, entriesMadeBy v (v.entriesOfStatement statement)
  | .action name options => by
      rw [entriesOfStatement]
      exact entriesOfAction_madeBy (optionsOf_madeBy options)
  | .block body => by
      rw [entriesOfStatement]
      exact entriesOf_madeBy body
  | .conditional none accepted otherwise => by
      rw [entriesOfStatement, chainOf, entriesMadeBy]
      exact ⟨entriesOfStatement_madeBy accepted, entriesOfOtherwise_madeBy otherwise, trivial⟩
  | .conditional (some tests) accepted otherwise => by
      rw [entriesOfStatement, chainOf, entriesMadeBy]
      exact ⟨termsOf_madeBy tests, entriesOfStatement_madeBy accepted,
        entriesOfOtherwise_madeBy otherwise, trivial⟩

theorem entriesOfOtherwise_madeBy :
    ∀ otherwise : Option Statement, entriesMadeBy v (v.entriesOfOtherwise otherwise)
  | none => by
      rw [entriesOfOtherwise]
      trivial
  | some statement => by
      rw [entriesOfOtherwise]
      exact entriesOfStatement_madeBy statement

theorem entriesOf_madeBy : ∀ body : List Statement, entriesMadeBy v (v.entriesOf body)
  | [] => by
      rw [entriesOf]
      trivial
  | statement :: body => by
      rw [entriesOf]
      exact entriesMadeBy_append (entriesOfStatement_madeBy statement) (entriesOf_madeBy body)

theorem optionsOf_madeBy :
    ∀ options : List (String × Operand), optionsMadeBy v (v.optionsOf options)
  | [] => by
      rw [optionsOf]
      trivial
  | (_, operand) :: options => by
      rw [optionsOf, optionsMadeBy]
      exact ⟨valueOf_madeBy operand, optionsOf_madeBy options⟩

theorem termsOf_madeBy : ∀ tests : List Test, termsMadeBy v (v.termsOf tests)
  | [] => by
      rw [termsOf]
      trivial
  | ⟨key, none, joint⟩ :: tests => by
      rw [termsOf, valueOfTest]
      exact termsMadeBy_cons (filterOf_madeBy (by simp)) (termsOf_madeBy tests)
  | ⟨key, some operand, joint⟩ :: tests => by
      rw [termsOf, valueOfTest]
      have hvalue := valueOf_madeBy operand
      exact termsMadeBy_cons (filterOf_madeBy (by simpa using hvalue)) (termsOf_madeBy tests)

end

/-- A list that has been read is made by the vocabulary that it was read with. -/
theorem parse_madeBy {source : String} {list : ActionList}
    (h : (v.parse source).result = .ok list) : entriesMadeBy v list := by
  obtain ⟨program, rfl⟩ := v.exists_eq_entriesOf h
  exact entriesOf_madeBy program

end Vocabulary

end WindowActions
