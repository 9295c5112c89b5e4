import Mathlib
import WindowActions.Pattern.Engine
import WindowActions.Proofs.ActionList.Faithful
import WindowActions.Proofs.Session.Deed
import WindowActions.Proofs.Session.Keyboard
import WindowActions.Proofs.Session.Sightings

/-!
# Lists that are the same do the same

Equality of lists leaves behaviors and rules aside. These follow from the numbers of registrations
and from texts, because that is all that the builtin setups look at. So lists that are the same and
have been made by one vocabulary differ at most in what no run looks at.

`Engine.list_text_faithful` is about the lists that an engine reads: their texts tell what they are,
and what they are tells what they do.
-/

namespace WindowActions

theorem Value.text?_eq_of_same {value other : Value} (h : value.same other = true) :
    value.text? = other.text? := by
  cases value <;> cases other <;> simp_all [same, text?]

theorem optionsWithin_iff {options others : List (String × Value)} :
    optionsWithin options others = true ↔
      ∀ option ∈ options, ∃ value, others.lookup option.1 = some value ∧
        option.2.same value = true := by
  induction options with
  | nil => simp [optionsWithin]
  | cons option options ih =>
      rw [optionsWithin, Bool.and_eq_true, ih, List.forall_mem_cons]
      cases others.lookup option.1 <;> simp

theorem Options.text?_eq_of_same {options others : Options} (h : options.IsTable)
    (hlength : options.length = others.length) (hwithin : optionsWithin options others = true)
    (name : String) : options.text? name = others.text? name := by
  rw [optionsWithin_iff] at hwithin
  rw [text?, text?, get?, get?]
  cases hlookup : options.lookup (asciiLower name) with
  | some value =>
      obtain ⟨earlier, later, rfl, -⟩ := List.lookup_eq_some_iff.1 hlookup
      obtain ⟨value', hlookup', hsame⟩ := hwithin (asciiLower name, value) (by simp)
      rw [hlookup', Option.bind_some, Option.bind_some, Value.text?_eq_of_same hsame]
  | none =>
      -- Counting the names: what one table lacks is not in the other either.
      have hnames := h.names_perm hlength fun option hoption => by
        obtain ⟨value, hvalue, -⟩ := hwithin option hoption
        simp [hvalue]
      have habsent : others.lookup (asciiLower name) = none := by
        refine List.lookup_eq_none_iff.2 fun other hother => ?_
        obtain ⟨option, hoption, hname⟩ :=
          List.mem_map.1 (hnames.mem_iff.2 (List.mem_map_of_mem hother))
        have hne := List.lookup_eq_none_iff.1 hlookup option hoption
        rwa [hname] at hne
      rw [habsent]

/-- All that the setup of an action looks at are the texts of its options. -/
def ActionDefinition.ReadsTexts (definition : ActionDefinition) : Prop :=
  ∀ options options' : Options, (∀ name, options.text? name = options'.text? name) →
    definition.setup options = definition.setup options'

/-- All that the setups of a vocabulary look at are texts. -/
structure Vocabulary.ReadsTexts (v : Vocabulary) : Prop where
  distinct : v.IsDistinct
  actions : ∀ definition ∈ v.actions.definitions, definition.ReadsTexts
  filters : ∀ definition ∈ v.filters.definitions, definition.IgnoresLists

namespace Vocabulary.ReadsTexts

variable {v : Vocabulary}

theorem bare_action_eq (hv : v.ReadsTexts) {info info' : ActionInfo} {options options' : Options}
    {behavior behavior' : Behavior} (h : Action.MadeBy v ⟨info, options, behavior⟩)
    (h' : Action.MadeBy v ⟨info', options', behavior'⟩) (hid : info.id = info'.id)
    (htexts : ∀ name, options.text? name = options'.text? name) :
    Action.bare ⟨info, options, behavior⟩ = Action.bare ⟨info', options', behavior'⟩ := by
  obtain ⟨-, definition, hdefinition, rfl, hsetup⟩ := h
  obtain ⟨-, definition', hdefinition', rfl, hsetup'⟩ := h'
  obtain rfl := hv.distinct.actions.eq_of_id_eq hdefinition hdefinition' hid
  rw [hv.actions definition hdefinition _ _ htexts, hsetup'] at hsetup
  cases hsetup
  rfl

theorem bare_filter_eq (hv : v.ReadsTexts) {info info' : FilterInfo} (invert : Bool)
    {value value' : Option Value} {rule rule' : FilterRule}
    (h : Filter.MadeBy v ⟨info, invert, value, rule⟩)
    (h' : Filter.MadeBy v ⟨info', invert, value', rule'⟩) (hid : info.id = info'.id)
    (htext : value.map (·.text?) = value'.map (·.text?)) :
    Filter.bare ⟨info, invert, value, rule⟩ = Filter.bare ⟨info', invert, value', rule'⟩ := by
  obtain ⟨definition, hdefinition, rfl, hsetup⟩ := h
  obtain ⟨definition', hdefinition', rfl, hsetup'⟩ := h'
  obtain rfl := hv.distinct.filters.eq_of_id_eq hdefinition hdefinition' hid
  rw [hv.filters definition hdefinition _ _ htext, hsetup'] at hsetup
  cases hsetup
  rfl

theorem bare_terms_eq (hv : v.ReadsTexts) : ∀ {ts us : List Term}, termsMadeBy v ts →
    termsMadeBy v us → sameTerms ts us = true → ts.map Term.bare = us.map Term.bare := by
  intro ts us hmade hmade' h
  rw [sameTerms.eq_def] at h
  split at h
  case h_1 => rfl
  case h_2 joint ts joint' us =>
      rw [termsMadeBy] at hmade hmade'
      simp only [Bool.and_eq_true, beq_iff_eq] at h
      obtain ⟨rfl, hts⟩ := h
      rw [List.map_cons, List.map_cons, hv.bare_terms_eq hmade hmade' hts]
  case h_3 info invert rule joint ts info' invert' rule' joint' us =>
      rw [termsMadeBy] at hmade hmade'
      simp only [Bool.and_eq_true, beq_iff_eq] at h
      obtain ⟨⟨⟨hid, rfl⟩, rfl⟩, hts⟩ := h
      rw [List.map_cons, List.map_cons, Term.bare, Term.bare, Option.map_some, Option.map_some,
        hv.bare_filter_eq invert hmade.1 hmade'.1 hid rfl, hv.bare_terms_eq hmade.2 hmade'.2 hts]
  case h_4 info invert value rule joint ts info' invert' value' rule' joint' us =>
      rw [termsMadeBy] at hmade hmade'
      simp only [Bool.and_eq_true, beq_iff_eq] at h
      obtain ⟨⟨⟨⟨hid, rfl⟩, hvalue⟩, rfl⟩, hts⟩ := h
      have htext := congrArg some (Value.text?_eq_of_same hvalue)
      rw [List.map_cons, List.map_cons, Term.bare, Term.bare, Option.map_some, Option.map_some,
        hv.bare_filter_eq invert hmade.1 hmade'.1 hid htext,
        hv.bare_terms_eq hmade.2.2 hmade'.2.2 hts]
  case h_5 => cases h

/-- Lists that the vocabulary has made and that are the same differ in options and values only. -/
theorem bareEntries_eq (hv : v.ReadsTexts) : ∀ {es fs : List Entry}, entriesMadeBy v es →
    entriesMadeBy v fs → sameEntries es fs = true → bareEntries es = bareEntries fs := by
  intro es fs hmade hmade' h
  -- The entries at the front have the same shape, because lists are never the same otherwise.
  rw [sameEntries.eq_def] at h
  split at h
  case h_1 => rfl
  case h_2 info options behavior es info' options' behavior' fs =>
      rw [entriesMadeBy] at hmade hmade'
      simp only [Bool.and_eq_true, beq_iff_eq] at h
      obtain ⟨⟨⟨hid, hlength⟩, hwithin⟩, hes⟩ := h
      have haction := hv.bare_action_eq hmade.1 hmade'.1 hid
        (Options.text?_eq_of_same hmade.1.isTable hlength hwithin)
      rw [bareEntries, bareEntries, Entry.bare, Entry.bare, haction,
        hv.bareEntries_eq hmade.2.2 hmade'.2.2 hes]
  case h_3 accepted otherwise es accepted' otherwise' fs =>
      rw [entriesMadeBy] at hmade hmade'
      simp only [Bool.and_eq_true] at h
      obtain ⟨⟨haccepted, hotherwise⟩, hes⟩ := h
      rw [bareEntries, bareEntries, Entry.bare, Entry.bare,
        hv.bareEntries_eq hmade.1 hmade'.1 haccepted,
        hv.bareEntries_eq hmade.2.1 hmade'.2.1 hotherwise,
        hv.bareEntries_eq hmade.2.2 hmade'.2.2 hes]
  case h_4 terms accepted otherwise es terms' accepted' otherwise' fs =>
      rw [entriesMadeBy] at hmade hmade'
      simp only [Bool.and_eq_true] at h
      obtain ⟨⟨⟨hterms, haccepted⟩, hotherwise⟩, hes⟩ := h
      rw [bareEntries, bareEntries, Entry.bare, Entry.bare, Option.map_some, Option.map_some,
        hv.bare_terms_eq hmade.1 hmade'.1 hterms,
        hv.bareEntries_eq hmade.2.1 hmade'.2.1 haccepted,
        hv.bareEntries_eq hmade.2.2.1 hmade'.2.2.1 hotherwise,
        hv.bareEntries_eq hmade.2.2.2 hmade'.2.2.2 hes]
  case h_5 => cases h

end Vocabulary.ReadsTexts

theorem Vocabulary.OnlyBuiltin.readsTexts [PatternEngine] {v : Vocabulary} (hv : v.OnlyBuiltin) :
    v.ReadsTexts where
  distinct := hv.distinct
  actions _ hdefinition _ _ htexts := hv.setup_congr hdefinition (htexts "command")
  filters := hv.filters_ignoreLists

namespace Engine

variable {S H : Type} [Seat S]

theorem vocabulary_after (change : H → World S → World S) (engine : Engine S)
    {happenings : List (Happening H)}
    (hopen : ∀ happening ∈ happenings, happening ≠ .call .shutdown) :
    (engine.after change happenings).vocabulary = engine.vocabulary := by
  refine after_induct_of (P := fun after => after.vocabulary = engine.vocabulary) ?_ engine rfl
    happenings hopen
  intro after happening hne h
  match happening with
  | .call (.run _ _) | .call (.input _) | .call .cancel | .parse _ | .host _ => exact h
  | .call .shutdown => exact absurd rfl hne

/-- Two lists are read by an engine that registers builtin actions and filters only and is not shut
down in between. If they have the same compact JSON text, they are the same. And if they are the
same, then running the one or the other makes no difference to an engine, in whatever state it and
its host are: the answer is the same and so are the clients, the grab and the session that the run
leaves, and everything that can be told of the engine later on. -/
theorem list_text_faithful [PatternEngine] (change : H → World S → World S) (engine : Engine S)
    (hengine : engine.vocabulary.OnlyBuiltin) (between : List (Happening H))
    (hopen : ∀ happening ∈ between, happening ≠ .call .shutdown) {source source' : String}
    {list list' : ActionList} (hlist : (engine.parse source).1 = .ok list)
    (hlist' : (((engine.parse source).2.after change between).parse source').1 = .ok list') :
    (list.toJson.compact = list'.toJson.compact → list.same list' = true) ∧
    (list.same list' = true →
      ∀ (host : Engine S) (trigger : Trigger) (later : List (Happening H)),
        host.sightings change (.call (.run list trigger) :: later) =
          host.sightings change (.call (.run list' trigger) :: later)) := by
  have hreads := hengine.readsTexts
  have hkept : ((engine.parse source).2.after change between).vocabulary = engine.vocabulary :=
    vocabulary_after change _ hopen
  have hmade : entriesMadeBy engine.vocabulary list := Vocabulary.parse_madeBy hlist
  have hmade' : entriesMadeBy engine.vocabulary list' := by
    rw [← hkept]
    exact Vocabulary.parse_madeBy hlist'
  refine ⟨hreads.distinct.same_of_compact hmade hmade', fun hsame host trigger later => ?_⟩
  exact host.sightings_run_congr change (hreads.bareEntries_eq hmade hmade' hsame) trigger later

theorem list_text_faithful_reordered :
    let engine := (ofClients ({} : HeadlessSeat) .empty).registerBuiltins
    let execute (options : List (String × Value)) : ActionList :=
      [.action ⟨⟨3, "Execute", .empty, false⟩, options, executeBehavior "x"⟩]
    let close : Value := .list [.action ⟨⟨0, "Close", .single, false⟩, [], closeBehavior⟩]
    let list := execute [("command", .text "x"), ("a", close), ("b", .text "y")]
    let list' := execute [("command", .text "x"), ("b", .text "y"), ("a", close)]
    engine.vocabulary.OnlyBuiltin ∧
    (engine.parse "Execute command:x a:{Close} b:y").1 = .ok list ∧
    ((engine.parse "Execute command:x a:{Close} b:y").2.cancel.parse
      "Execute command:x b:y a:{Close}").1 = .ok list' ∧
    list.same list' = true ∧
    ∀ (host : Engine HeadlessSeat) (trigger : Trigger) (later : List (Happening HeadlessChange)),
      host.sightings HeadlessChange.apply (.call (.run list trigger) :: later) =
        host.sightings HeadlessChange.apply (.call (.run list' trigger) :: later) := by
  intro engine execute close list list'
  have hparse (e : Engine HeadlessSeat) (source : String) :
      (e.parse source).1 = (e.vocabulary.parse source).result := rfl
  have hcancel (e : Engine HeadlessSeat) (source : String) :
      (e.parse source).2.cancel.vocabulary = e.vocabulary := rfl
  have hengine : engine.vocabulary = Vocabulary.builtin := rfl
  have hlist : (engine.parse "Execute command:x a:{Close} b:y").1 = .ok list := by
    rw [hparse, hengine]
    cbv
  have hlist' : ((engine.parse "Execute command:x a:{Close} b:y").2.cancel.parse
      "Execute command:x b:y a:{Close}").1 = .ok list' := by
    rw [hparse, hcancel, hengine]
    cbv
  have hsame : list.same list' = true := by cbv
  have hfaithful := list_text_faithful HeadlessChange.apply engine .builtin [.call .cancel]
    (by simp) hlist hlist'
  exact ⟨.builtin, hlist, hlist', hsame, hfaithful.2 hsame⟩

end Engine

end WindowActions
