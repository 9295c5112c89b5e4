import Mathlib
import WindowActions.Pattern.Engine
import WindowActions.Proofs.Program.Meaning
import WindowActions.Proofs.Vocabulary.Registered

/-!
# Programs without some of their actions

Which sources are programs does not depend on the vocabulary, and neither do the errors of those
that are not. Only a setup that misuses a value can make a difference: `Vocabulary.parse_outcome`.

When some actions are not registered, their entries disappear from the lists that programs become,
and nothing else changes. `entriesWithout` deletes entries at every depth, in branches and in the
lists that are values of options and filters. It is what a smaller registry does to a list, if no
setup looks into the lists that it is given.
-/

namespace WindowActions

mutual

/-- The value without the actions of some registrations. -/
def Value.without (gone : Nat → Bool) : Value → Value
  | .text s => .text s
  | .list entries => .list (entriesWithout gone entries)

/-- The entries without the actions of some registrations, at every depth. -/
def entriesWithout (gone : Nat → Bool) : List Entry → List Entry
  | [] => []
  | .action ⟨info, options, behavior⟩ :: entries =>
    if gone info.id then entriesWithout gone entries
    else .action ⟨info, optionsWithout gone options, behavior⟩ :: entriesWithout gone entries
  | .conditional none accepted otherwise :: entries =>
    .conditional none (entriesWithout gone accepted) (entriesWithout gone otherwise) ::
      entriesWithout gone entries
  | .conditional (some terms) accepted otherwise :: entries =>
    .conditional (some (termsWithout gone terms)) (entriesWithout gone accepted)
      (entriesWithout gone otherwise) :: entriesWithout gone entries

def optionsWithout (gone : Nat → Bool) : List (String × Value) → List (String × Value)
  | [] => []
  | (name, value) :: options => (name, value.without gone) :: optionsWithout gone options

def termsWithout (gone : Nat → Bool) : List Term → List Term
  | [] => []
  | ⟨none, joint⟩ :: terms => ⟨none, joint⟩ :: termsWithout gone terms
  | ⟨some ⟨info, invert, none, rule⟩, joint⟩ :: terms =>
    ⟨some ⟨info, invert, none, rule⟩, joint⟩ :: termsWithout gone terms
  | ⟨some ⟨info, invert, some value, rule⟩, joint⟩ :: terms =>
    ⟨some ⟨info, invert, some (value.without gone), rule⟩, joint⟩ :: termsWithout gone terms

end

def ActionList.without (gone : Nat → Bool) (list : ActionList) : ActionList :=
  entriesWithout gone list

/-- The filter with its value without the actions of some registrations. -/
def Filter.without (gone : Nat → Bool) (f : Filter) : Filter :=
  { f with value := f.value.map (·.without gone) }

section Deleting

variable (gone : Nat → Bool)

theorem entriesWithout_append (entries more : List Entry) :
    entriesWithout gone (entries ++ more) =
      entriesWithout gone entries ++ entriesWithout gone more := by
  induction entries with
  | nil => simp [entriesWithout]
  | cons entry entries ih =>
      rw [List.cons_append]
      match entry with
      | .action ⟨info, options, behavior⟩ =>
          rw [entriesWithout, entriesWithout, ih]
          split <;> rfl
      | .conditional none accepted otherwise =>
          rw [entriesWithout, entriesWithout, ih, List.cons_append]
      | .conditional (some terms) accepted otherwise =>
          rw [entriesWithout, entriesWithout, ih, List.cons_append]

theorem optionsWithout_eq (options : List (String × Value)) :
    optionsWithout gone options = options.map fun option => (option.1, option.2.without gone) := by
  induction options with
  | nil => rfl
  | cons option options ih => rw [optionsWithout, ih, List.map_cons]

theorem termsWithout_cons (filter : Option Filter) (joint : Joint) (terms : List Term) :
    termsWithout gone (⟨filter, joint⟩ :: terms) =
      ⟨filter.map (·.without gone), joint⟩ :: termsWithout gone terms := by
  match filter with
  | none => rw [termsWithout, Option.map_none]
  | some ⟨info, invert, none, rule⟩ => rw [termsWithout]; rfl
  | some ⟨info, invert, some value, rule⟩ => rw [termsWithout]; rfl

theorem Value.text?_without (value : Value) : (value.without gone).text? = value.text? := by
  cases value <;> rfl

theorem Options.texts_without (options : Options) :
    Options.texts (optionsWithout gone options) = options.texts := by
  simp [optionsWithout_eq, texts, Value.text?_without]

/-- Deleting entries from the values does not change which options are given again. -/
theorem Options.insert_without (options : Options) (name : String) (value : Value) :
    optionsWithout gone (options.insert name value) =
      Options.insert (optionsWithout gone options) name (value.without gone) := by
  have hkeys : (optionsWithout gone options).any (·.1 == asciiLower name) =
      options.any (·.1 == asciiLower name) := by
    simp [optionsWithout_eq, Function.comp_def]
  rw [Options.insert, Options.insert, hkeys]
  split
  · rw [optionsWithout_eq, optionsWithout_eq, List.map_map, List.map_map]
    refine List.map_congr_left fun option _ => ?_
    by_cases hkey : option.1 = asciiLower name <;> simp [hkey]
  · simp [optionsWithout_eq]

theorem Options.ofList_without (given : List (String × Value)) :
    optionsWithout gone (Options.ofList given) = Options.ofList (optionsWithout gone given) := by
  have hfold : ∀ options : Options,
      optionsWithout gone
          (given.foldl (fun options option => Options.insert options option.1 option.2) options) =
        (optionsWithout gone given).foldl
          (fun options option => Options.insert options option.1 option.2)
          (optionsWithout gone options) := by
    induction given with
    | nil => exact fun options => rfl
    | cons option given ih =>
        intro options
        rw [List.foldl_cons, ih, Options.insert_without, optionsWithout_eq gone (option :: given),
          List.map_cons, List.foldl_cons, ← optionsWithout_eq]
  exact hfold []

end Deleting

theorem Resolved.bind_eq_ok {α β : Type} {r : Resolved α} {f : α → Resolved β} {b : β} :
    (r.bind f).result = .ok b ↔ ∃ a, r.result = .ok a ∧ (f a).result = .ok b := by
  cases hr : r.result with
  | error m => simp [bind, hr]
  | ok a => simp [bind, hr]

namespace Vocabulary

/-- The vocabulary with the actions of another registry. -/
def withActions (v : Vocabulary) (actions : ActionRegistry) : Vocabulary := ⟨actions, v.filters⟩

/-- A registry has some of the actions of a vocabulary and no others. Its actions have numbers and
names of their own, and no setup looks into the lists that it is given. -/
structure ShrinksTo (v : Vocabulary) (smaller : ActionRegistry) : Prop where
  sublist : smaller.definitions.Sublist v.actions.definitions
  distinct : v.actions.IsDistinct
  actions : ∀ definition ∈ v.actions.definitions, definition.IgnoresLists
  filters : ∀ definition ∈ v.filters.definitions, definition.IgnoresLists

namespace ShrinksTo

variable {v : Vocabulary} {smaller : ActionRegistry}

theorem makeAction (hv : v.ShrinksTo smaller) {name : String} {options : Options}
    {entries : List Entry} (h : (v.makeAction name options).result = .ok entries) :
    ((v.withActions smaller).makeAction name (optionsWithout smaller.lacks options)).result =
      .ok (entriesWithout smaller.lacks entries) := by
  have hfind := ActionRegistry.find?_of_sublist hv.distinct hv.sublist name
  rw [Vocabulary.makeAction] at h ⊢
  rw [withActions, hfind]
  cases hfound : v.actions.find? name with
  | none =>
      rw [hfound] at h
      cases h
      rfl
  | some definition =>
      have hsame := hv.actions definition (List.mem_of_find?_eq_some hfound)
        (optionsWithout smaller.lacks options) options (Options.texts_without _ options)
      simp only [hfound] at h
      cases hsetup : definition.setup options with
      | error m =>
          rw [hsetup] at h
          cases h
      | ok behavior =>
          rw [hsetup] at h hsame
          cases hlacks : smaller.lacks definition.info.id with
          | true =>
              rw [Option.filter_some, if_neg (by simp [hlacks])]
              cases behavior with
              | none =>
                  cases h
                  rfl
              | some behavior =>
                  cases h
                  rw [entriesWithout, if_pos hlacks]
                  rfl
          | false =>
              rw [Option.filter_some, if_pos (by simp [hlacks])]
              simp only [hsame]
              cases behavior with
              | none =>
                  cases h
                  rfl
              | some behavior =>
                  cases h
                  rw [entriesWithout, if_neg (by simp [hlacks])]
                  rfl

theorem makeFilter (hv : v.ShrinksTo smaller) {key : String} {value : Option Value}
    {filter : Option Filter} (gone : Nat → Bool)
    (h : (v.makeFilter key value).result = .ok filter) :
    ((v.withActions smaller).makeFilter key (value.map (·.without gone))).result =
      .ok (filter.map (·.without gone)) := by
  have hfind : (v.withActions smaller).findFilter? key = v.findFilter? key := rfl
  rw [Vocabulary.makeFilter] at h ⊢
  rw [hfind]
  cases hfound : v.findFilter? key with
  | none =>
      rw [hfound] at h
      cases h
      rfl
  | some found =>
      obtain ⟨definition, invert⟩ := found
      have htexts : (value.map (·.without gone)).map (·.text?) = value.map (·.text?) := by
        simp [Function.comp_def, Value.text?_without]
      have hsame := hv.filters definition (mem_of_findFilter? hfound) _ _ htexts
      simp only [hfound] at h
      simp only [hsame]
      cases hsetup : definition.setup value with
      | error complaints =>
          rw [hsetup] at h
          cases h
          rfl
      | ok rule =>
          rw [hsetup] at h
          cases h
          rfl

mutual

theorem resolveOperand (hv : v.ShrinksTo smaller) :
    ∀ {operand : Operand} {value : Value}, (v.resolveOperand operand).result = .ok value →
      ((v.withActions smaller).resolveOperand operand).result = .ok (value.without smaller.lacks)
  | .text chars, _, h => by
      cases h
      rfl
  | .list body, _, h => by
      rw [Vocabulary.resolveOperand] at h ⊢
      obtain ⟨entries, hbody, hvalue⟩ := Resolved.bind_eq_ok.1 h
      cases hvalue
      exact Resolved.bind_eq_ok.2 ⟨_, hv.resolveBody hbody, rfl⟩

theorem resolveStatement (hv : v.ShrinksTo smaller) :
    ∀ {statement : Statement} {entries : List Entry},
      (v.resolveStatement statement).result = .ok entries →
      ((v.withActions smaller).resolveStatement statement).result =
        .ok (entriesWithout smaller.lacks entries)
  | .action name options, _, h => by
      rw [Vocabulary.resolveStatement] at h ⊢
      obtain ⟨given, hgiven, haction⟩ := Resolved.bind_eq_ok.1 h
      refine Resolved.bind_eq_ok.2 ⟨_, hv.resolveOptions hgiven, ?_⟩
      rw [← Options.ofList_without]
      exact hv.makeAction haction
  | .block body, _, h => by
      rw [Vocabulary.resolveStatement] at h ⊢
      exact hv.resolveBody h
  | .conditional none accepted otherwise, _, h => by
      rw [Vocabulary.resolveStatement] at h ⊢
      obtain ⟨first, hfirst, h⟩ := Resolved.bind_eq_ok.1 h
      obtain ⟨second, hsecond, h⟩ := Resolved.bind_eq_ok.1 h
      cases h
      exact Resolved.bind_eq_ok.2 ⟨_, hv.resolveStatement hfirst,
        Resolved.bind_eq_ok.2 ⟨_, hv.resolveOtherwise hsecond, by
          simp [Resolved.pure, entriesWithout]⟩⟩
  | .conditional (some tests) accepted otherwise, _, h => by
      rw [Vocabulary.resolveStatement] at h ⊢
      obtain ⟨terms, hterms, h⟩ := Resolved.bind_eq_ok.1 h
      obtain ⟨first, hfirst, h⟩ := Resolved.bind_eq_ok.1 h
      obtain ⟨second, hsecond, h⟩ := Resolved.bind_eq_ok.1 h
      cases h
      exact Resolved.bind_eq_ok.2 ⟨_, hv.resolveTests hterms,
        Resolved.bind_eq_ok.2 ⟨_, hv.resolveStatement hfirst,
          Resolved.bind_eq_ok.2 ⟨_, hv.resolveOtherwise hsecond, by
            simp [Resolved.pure, entriesWithout]⟩⟩⟩

theorem resolveOtherwise (hv : v.ShrinksTo smaller) :
    ∀ {otherwise : Option Statement} {entries : List Entry},
      (v.resolveOtherwise otherwise).result = .ok entries →
      ((v.withActions smaller).resolveOtherwise otherwise).result =
        .ok (entriesWithout smaller.lacks entries)
  | none, _, h => by
      cases h
      rfl
  | some statement, _, h => by
      rw [Vocabulary.resolveOtherwise] at h ⊢
      exact hv.resolveStatement h

theorem resolveBody (hv : v.ShrinksTo smaller) :
    ∀ {body : List Statement} {entries : List Entry}, (v.resolveBody body).result = .ok entries →
      ((v.withActions smaller).resolveBody body).result =
        .ok (entriesWithout smaller.lacks entries)
  | [], _, h => by
      cases h
      rfl
  | statement :: body, _, h => by
      rw [Vocabulary.resolveBody] at h ⊢
      obtain ⟨first, hfirst, h⟩ := Resolved.bind_eq_ok.1 h
      obtain ⟨more, hmore, h⟩ := Resolved.bind_eq_ok.1 h
      cases h
      exact Resolved.bind_eq_ok.2 ⟨_, hv.resolveStatement hfirst,
        Resolved.bind_eq_ok.2 ⟨_, hv.resolveBody hmore, by
          rw [entriesWithout_append]
          rfl⟩⟩

theorem resolveOptions (hv : v.ShrinksTo smaller) :
    ∀ {options : List (String × Operand)} {given : List (String × Value)},
      (v.resolveOptions options).result = .ok given →
      ((v.withActions smaller).resolveOptions options).result =
        .ok (optionsWithout smaller.lacks given)
  | [], _, h => by
      cases h
      rfl
  | (name, operand) :: options, _, h => by
      rw [Vocabulary.resolveOptions] at h ⊢
      obtain ⟨value, hvalue, h⟩ := Resolved.bind_eq_ok.1 h
      obtain ⟨more, hmore, h⟩ := Resolved.bind_eq_ok.1 h
      cases h
      exact Resolved.bind_eq_ok.2 ⟨_, hv.resolveOperand hvalue,
        Resolved.bind_eq_ok.2 ⟨_, hv.resolveOptions hmore, rfl⟩⟩

theorem resolveTests (hv : v.ShrinksTo smaller) :
    ∀ {tests : List Test} {terms : List Term}, (v.resolveTests tests).result = .ok terms →
      ((v.withActions smaller).resolveTests tests).result = .ok (termsWithout smaller.lacks terms)
  | [], _, h => by
      cases h
      rfl
  | ⟨key, none, joint⟩ :: tests, _, h => by
      rw [Vocabulary.resolveTests] at h ⊢
      obtain ⟨filter, hfilter, h⟩ := Resolved.bind_eq_ok.1 h
      obtain ⟨more, hmore, h⟩ := Resolved.bind_eq_ok.1 h
      cases h
      exact Resolved.bind_eq_ok.2 ⟨_, hv.makeFilter smaller.lacks hfilter,
        Resolved.bind_eq_ok.2 ⟨_, hv.resolveTests hmore, by rw [termsWithout_cons]; rfl⟩⟩
  | ⟨key, some operand, joint⟩ :: tests, _, h => by
      rw [Vocabulary.resolveTests] at h ⊢
      obtain ⟨value, hvalue, h⟩ := Resolved.bind_eq_ok.1 h
      obtain ⟨filter, hfilter, h⟩ := Resolved.bind_eq_ok.1 h
      obtain ⟨more, hmore, h⟩ := Resolved.bind_eq_ok.1 h
      cases h
      exact Resolved.bind_eq_ok.2 ⟨_, hv.resolveOperand hvalue,
        Resolved.bind_eq_ok.2 ⟨_, hv.makeFilter smaller.lacks hfilter,
          Resolved.bind_eq_ok.2 ⟨_, hv.resolveTests hmore, by rw [termsWithout_cons]; rfl⟩⟩⟩

end

/-- The smaller registry makes the same list of a source, without the actions that it lacks. -/
theorem parse (hv : v.ShrinksTo smaller) {source : String} {list : ActionList}
    (h : (v.parse source).result = .ok list) :
    ((v.withActions smaller).parse source).result = .ok (list.without smaller.lacks) := by
  obtain ⟨stream, program, htokens, hread, hresolved⟩ := v.exists_stream_of_parse_eq_ok h
  rw [parse_result_of_ok _ htokens hread, hv.resolveBody hresolved]
  rfl

end ShrinksTo

theorem shrinksTo_builtin [PatternEngine] {smaller : ActionRegistry}
    (h : smaller.definitions.Sublist builtin.actions.definitions) : builtin.ShrinksTo smaller :=
  ⟨h, OnlyBuiltin.builtin.distinct.actions, OnlyBuiltin.builtin.actions_ignoreLists,
    OnlyBuiltin.builtin.filters_ignoreLists⟩

theorem resolvePhrases_means (v : Vocabulary) (phrases : List Phrase) :
    (v.resolvePhrases phrases).Means
      ((phrases.flatMap Phrase.actions).findSome? v.misuseOf) () := by
  induction phrases with
  | nil => exact .pure ()
  | cons phrase phrases ih =>
      rw [List.flatMap_cons, List.findSome?_append]
      cases phrase with
      | statement s => exact (v.resolveStatement_means s).bind ih
      | test only => exact (v.resolveTests_means [only]).bind ih

/-- Whether a source becomes an action list, and what is wrong with it if not, is the same for all
vocabularies, unless one of their setups misuses a value. -/
theorem parse_outcome (source : String) :
    ∃ outcome : Except SourceError Unit, ∀ v : Vocabulary,
      ((v.parse source).result.map fun _ => ()) = outcome.mapError .source ∨
        ∃ m, v.Misuses m ∧ (v.parse source).result = .error (.misuse m) := by
  cases htokens : tokenize source with
  | error e =>
      refine ⟨.error e, fun v => Or.inl ?_⟩
      simp only [Vocabulary.parse, htokens]
      rfl
  | ok stream =>
      cases hread : stream.toProgram with
      | error r =>
          refine ⟨.error r.error, fun v => ?_⟩
          simp only [Vocabulary.parse, htokens, hread, Parsed.ofRejected]
          rw [v.resolvePhrases_means r.heard]
          cases hmisuse : (r.heard.flatMap Phrase.actions).findSome? v.misuseOf with
          | none => exact Or.inl rfl
          | some m => exact Or.inr ⟨m, misuses_of_findSome? hmisuse, rfl⟩
      | ok program =>
          refine ⟨.ok (), fun v => ?_⟩
          rw [parse_result_of_ok v htokens hread, v.resolveBody_means program]
          cases hmisuse : v.firstMisuse program with
          | none => exact Or.inl rfl
          | some m => exact Or.inr ⟨m, misuses_of_findSome? hmisuse, rfl⟩

/-- The vocabulary never changes the syntax. Every two of them agree on which sources become action
lists and on the errors of the others, except for a setup that misuses a value. And if actions are
left out of a vocabulary, then lists are as before without these actions, at every depth, provided
that no setup looks into lists; no builtin one does. -/
theorem parse_syntax [PatternEngine] :
    (∀ (source : String) (v v' : Vocabulary),
      (∀ m, (v.parse source).result ≠ .error (.misuse m)) →
      (∀ m, (v'.parse source).result ≠ .error (.misuse m)) →
      ((v.parse source).result.map fun _ => ()) = (v'.parse source).result.map fun _ => ()) ∧
    (∀ (source : String) (v : Vocabulary) (m : Misuse),
      (v.parse source).result = .error (.misuse m) → v.Misuses m) ∧
    (∀ (v : Vocabulary) (smaller : ActionRegistry) (source : String) (list : ActionList),
      v.ShrinksTo smaller → (v.parse source).result = .ok list →
      ((v.withActions smaller).parse source).result = .ok (list.without smaller.lacks)) ∧
    ∀ smaller : ActionRegistry, smaller.definitions.Sublist builtin.actions.definitions →
      builtin.ShrinksTo smaller := by
  refine ⟨fun source v v' hv hv' => ?_, fun source v m h => ?_, fun v smaller source list hv h =>
    hv.parse h, fun smaller h => shrinksTo_builtin h⟩
  · obtain ⟨outcome, houtcome⟩ := parse_outcome source
    have hsame := (houtcome v).resolve_right fun ⟨m, _, hm⟩ => hv m hm
    have hsame' := (houtcome v').resolve_right fun ⟨m, _, hm⟩ => hv' m hm
    rw [hsame, hsame']
  · obtain ⟨outcome, houtcome⟩ := parse_outcome source
    rcases houtcome v with hok | ⟨m', hm', hmisuse⟩
    · rw [h] at hok
      cases outcome <;> cases hok
    · rw [hmisuse] at h
      cases h
      exact hm'

theorem parse_syntax_without_close :
    let smaller : ActionRegistry := ⟨builtin.actions.definitions.drop 1, 6⟩
    builtin.ShrinksTo smaller ∧
    (builtin.parse "[urgent={Close}] Close | Activate on:{Close; Iconify}").result = .ok [
      .conditional
        (some [⟨some ⟨⟨1, "urgent"⟩, false,
          some (.list [.action ⟨⟨0, "Close", .single, false⟩, [], closeBehavior⟩]),
          .matching (·.state.urgent)⟩, .or⟩])
        [.action ⟨⟨0, "Close", .single, false⟩, [], closeBehavior⟩]
        [.action ⟨⟨1, "Activate", .single, false⟩,
          [("on", .list [.action ⟨⟨0, "Close", .single, false⟩, [], closeBehavior⟩,
            .action ⟨⟨2, "Iconify", .single, false⟩, [], iconifyBehavior⟩])],
          activateBehavior⟩]] ∧
    ((builtin.withActions smaller).parse
      "[urgent={Close}] Close | Activate on:{Close; Iconify}").result = .ok [
      .conditional
        (some [⟨some ⟨⟨1, "urgent"⟩, false, some (.list []), .matching (·.state.urgent)⟩, .or⟩])
        []
        [.action ⟨⟨1, "Activate", .single, false⟩,
          [("on", .list [.action ⟨⟨2, "Iconify", .single, false⟩, [], iconifyBehavior⟩])],
          activateBehavior⟩]] := by
  intro smaller
  have hsub : smaller.definitions.Sublist builtin.actions.definitions := List.drop_sublist 1 _
  have hparse : (builtin.parse "[urgent={Close}] Close | Activate on:{Close; Iconify}").result =
      .ok [
      .conditional
        (some [⟨some ⟨⟨1, "urgent"⟩, false,
          some (.list [.action ⟨⟨0, "Close", .single, false⟩, [], closeBehavior⟩]),
          .matching (·.state.urgent)⟩, .or⟩])
        [.action ⟨⟨0, "Close", .single, false⟩, [], closeBehavior⟩]
        [.action ⟨⟨1, "Activate", .single, false⟩,
          [("on", .list [.action ⟨⟨0, "Close", .single, false⟩, [], closeBehavior⟩,
            .action ⟨⟨2, "Iconify", .single, false⟩, [], iconifyBehavior⟩])],
          activateBehavior⟩]] := by
    cbv
  have hsmaller := parse_syntax.2.2.2 smaller hsub
  refine ⟨hsmaller, hparse, ?_⟩
  exact parse_syntax.2.2.1 builtin smaller _ _ hsmaller hparse

end Vocabulary

end WindowActions
