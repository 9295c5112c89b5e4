import WindowActions.ActionList.Json
import WindowActions.ActionList.Same
import WindowActions.Proofs.Json.RoundTrip
import WindowActions.Proofs.Vocabulary.Made
import WindowActions.Proofs.Vocabulary.Registered

/-!
# The JSON text of a list tells what the list is

A name stands for a definition, because the names of a vocabulary are distinct. Everything else that
makes up a list is written, and what is written differently is read differently. So lists that one
vocabulary has made and that have the same compact text are the same.
-/

namespace WindowActions

section Fits

mutual

/-- No numbers are written, so a reader gives back the value if it goes deep enough. -/
theorem Value.fits_toJson :
    ∀ value : Value, ∃ enough, ∀ levels, enough ≤ levels → value.toJson.Fits levels
  | .text s => ⟨0, fun _ _ => trivial⟩
  | .list entries => by
      obtain ⟨m, hm⟩ := entries_fit_toJson entries
      refine ⟨m + 1, fun levels hle => ?_⟩
      rw [Value.toJson, Json.Fits]
      exact ⟨by omega, hm _ (by omega)⟩

theorem entries_fit_toJson :
    ∀ entries : List Entry, ∃ enough, ∀ levels, enough ≤ levels →
      Json.itemsFit levels (entriesToJson entries)
  | [] => ⟨0, fun _ _ => trivial⟩
  | .action ⟨info, options, behavior⟩ :: entries => by
      obtain ⟨m, hm⟩ := options_fit_toJson options
      obtain ⟨n, hn⟩ := entries_fit_toJson entries
      refine ⟨max (m + 2) n, fun levels hle => ?_⟩
      have hoptions := hm (levels - 1 - 1) (by omega)
      have hentries := hn levels (by omega)
      simp only [entriesToJson, Json.itemsFit, Json.Fits, Json.fieldsFit]
      exact ⟨⟨by omega, trivial, ⟨by omega, hoptions⟩, trivial⟩, hentries⟩
  | .conditional none accepted otherwise :: entries => by
      obtain ⟨k, hk⟩ := entries_fit_toJson accepted
      obtain ⟨m, hm⟩ := entries_fit_toJson otherwise
      obtain ⟨n, hn⟩ := entries_fit_toJson entries
      refine ⟨max (max (k + 2) (m + 2)) n, fun levels hle => ?_⟩
      have haccepted := hk (levels - 1 - 1) (by omega)
      have hotherwise := hm (levels - 1 - 1) (by omega)
      have hentries := hn levels (by omega)
      simp only [entriesToJson, Json.itemsFit, Json.Fits, Json.fieldsFit]
      exact ⟨⟨by omega, trivial, ⟨by omega, haccepted⟩, ⟨by omega, hotherwise⟩, trivial⟩, hentries⟩
  | .conditional (some terms) accepted otherwise :: entries => by
      obtain ⟨j, hj⟩ := terms_fit_toJson terms
      obtain ⟨k, hk⟩ := entries_fit_toJson accepted
      obtain ⟨m, hm⟩ := entries_fit_toJson otherwise
      obtain ⟨n, hn⟩ := entries_fit_toJson entries
      refine ⟨max (max (j + 2) (k + 2)) (max (m + 2) n), fun levels hle => ?_⟩
      have hterms := hj (levels - 1 - 1) (by omega)
      have haccepted := hk (levels - 1 - 1) (by omega)
      have hotherwise := hm (levels - 1 - 1) (by omega)
      have hentries := hn levels (by omega)
      simp only [entriesToJson, Json.itemsFit, Json.Fits, Json.fieldsFit]
      exact ⟨⟨by omega, ⟨by omega, hterms⟩, ⟨by omega, haccepted⟩, ⟨by omega, hotherwise⟩, trivial⟩,
        hentries⟩

theorem options_fit_toJson :
    ∀ options : List (String × Value), ∃ enough, ∀ levels, enough ≤ levels →
      Json.fieldsFit levels (optionsToJson options)
  | [] => ⟨0, fun _ _ => trivial⟩
  | (name, value) :: options => by
      obtain ⟨m, hm⟩ := value.fits_toJson
      obtain ⟨n, hn⟩ := options_fit_toJson options
      refine ⟨max m n, fun levels hle => ?_⟩
      rw [optionsToJson, Json.fieldsFit]
      exact ⟨hm levels (by omega), hn levels (by omega)⟩

theorem terms_fit_toJson :
    ∀ terms : List Term, ∃ enough, ∀ levels, enough ≤ levels →
      Json.itemsFit levels (termsToJson terms)
  | [] => ⟨0, fun _ _ => trivial⟩
  | ⟨none, joint⟩ :: terms => by
      obtain ⟨n, hn⟩ := terms_fit_toJson terms
      refine ⟨max 1 n, fun levels hle => ?_⟩
      have hterms := hn levels (by omega)
      simp only [termsToJson, Json.itemsFit, Json.Fits, Json.fieldsFit]
      exact ⟨⟨by omega, trivial, trivial, trivial⟩, hterms⟩
  | ⟨some ⟨info, invert, none, rule⟩, joint⟩ :: terms => by
      obtain ⟨n, hn⟩ := terms_fit_toJson terms
      refine ⟨max 2 n, fun levels hle => ?_⟩
      have hterms := hn levels (by omega)
      simp only [termsToJson, filterToJson, Json.itemsFit, Json.Fits, Json.fieldsFit]
      exact ⟨⟨by omega, ⟨by omega, trivial, trivial, trivial, trivial⟩, trivial, trivial⟩, hterms⟩
  | ⟨some ⟨info, invert, some value, rule⟩, joint⟩ :: terms => by
      obtain ⟨m, hm⟩ := value.fits_toJson
      obtain ⟨n, hn⟩ := terms_fit_toJson terms
      refine ⟨max (m + 2) n, fun levels hle => ?_⟩
      have hvalue := hm (levels - 1 - 1) (by omega)
      have hterms := hn levels (by omega)
      simp only [termsToJson, filterToJson, Json.itemsFit, Json.Fits, Json.fieldsFit]
      exact ⟨⟨by omega, ⟨by omega, trivial, trivial, hvalue, trivial⟩, trivial, trivial⟩, hterms⟩

end

/-- The compact text of a list determines its JSON value. -/
theorem ActionList.toJson_eq_of_compact {list other : ActionList}
    (h : list.toJson.compact = other.toJson.compact) :
    entriesToJson list = entriesToJson other := by
  obtain ⟨m, hm⟩ := (Value.list list).fits_toJson
  obtain ⟨n, hn⟩ := (Value.list other).fits_toJson
  have heq := Json.compact_injective (hm (max m n) (by omega)) (hn (max m n) (by omega)) h
  simpa only [Value.toJson, Json.array.injEq] using heq

end Fits

theorem optionsToJson_eq (options : List (String × Value)) :
    optionsToJson options = options.map fun option => (option.1, option.2.toJson) := by
  induction options with
  | nil => rfl
  | cons option options ih => rw [optionsToJson, ih, List.map_cons]

theorem Joint.eq_of_beq_and_eq {joint joint' : Joint} (h : (joint == .and) = (joint' == .and)) :
    joint = joint' := by
  cases joint <;> cases joint' <;> first | rfl | cases h

theorem Value.toJson_ne_null (value : Value) : value.toJson ≠ .null := by
  cases value <;> simp [toJson]

section Names

variable {v : Vocabulary}

theorem Action.MadeBy.id_eq (hv : v.actions.IsDistinct) {action other : Action}
    (h : action.MadeBy v) (h' : other.MadeBy v) (hname : action.info.name = other.info.name) :
    action.info.id = other.info.id := by
  obtain ⟨definition, hdefinition, hinfo, -⟩ := h.exists_definition
  obtain ⟨definition', hdefinition', hinfo', -⟩ := h'.exists_definition
  rw [← hinfo, ← hinfo'] at hname ⊢
  exact congrArg Prod.fst
    (hv.eq_of_name_eq (List.mem_map_of_mem hdefinition) (List.mem_map_of_mem hdefinition') hname)

theorem Filter.MadeBy.id_eq (hv : v.filters.IsDistinct) {f g : Filter} (h : f.MadeBy v)
    (h' : g.MadeBy v) (hname : f.info.name = g.info.name) : f.info.id = g.info.id := by
  obtain ⟨definition, hdefinition, hinfo, -⟩ := h
  obtain ⟨definition', hdefinition', hinfo', -⟩ := h'
  rw [← hinfo, ← hinfo'] at hname ⊢
  exact congrArg Prod.fst
    (hv.eq_of_name_eq (List.mem_map_of_mem hdefinition) (List.mem_map_of_mem hdefinition') hname)

end Names

namespace Vocabulary.IsDistinct

variable {v : Vocabulary}

mutual

theorem same_of_toJson (hv : v.IsDistinct) : ∀ {value other : Value}, value.MadeBy v →
    other.MadeBy v → value.toJson = other.toJson → value.same other = true
  | .text s, .text t, _, _, h => by
      simpa [Value.toJson, Value.same] using h
  | .list es, .list fs, hmade, hmade', h => by
      rw [Value.MadeBy] at hmade hmade'
      rw [Value.same]
      exact hv.sameEntries_of_toJson hmade hmade' (by simpa [Value.toJson] using h)
  | .text _, .list _, _, _, h | .list _, .text _, _, _, h => by
      simp [Value.toJson] at h

theorem sameEntries_of_toJson (hv : v.IsDistinct) : ∀ {es fs : List Entry}, entriesMadeBy v es →
    entriesMadeBy v fs → entriesToJson es = entriesToJson fs → sameEntries es fs = true
  | [], [], _, _, _ => by rw [sameEntries]
  | .action ⟨info, options, behavior⟩ :: es, .action ⟨info', options', behavior'⟩ :: fs, hmade,
      hmade', h => by
      rw [entriesMadeBy] at hmade hmade'
      simp only [entriesToJson, List.cons.injEq, Json.object.injEq, Prod.mk.injEq,
        Json.string.injEq, true_and, and_true] at h
      obtain ⟨⟨hname, hoptions⟩, hes⟩ := h
      have hlength : options.length = options'.length := by
        simpa [optionsToJson_eq] using congrArg List.length hoptions
      have hwithin := hv.optionsWithin_of_toJson options' hmade.2.1 hmade'.2.1 hoptions
        fun option hoption => hmade'.1.isTable.lookup_eq_some hoption
      rw [sameEntries]
      simp only [Bool.and_eq_true, beq_iff_eq]
      exact ⟨⟨⟨hmade.1.id_eq hv.actions hmade'.1 hname, hlength⟩, hwithin⟩,
        hv.sameEntries_of_toJson hmade.2.2 hmade'.2.2 hes⟩
  | .conditional none accepted otherwise :: es, .conditional none accepted' otherwise' :: fs, hmade,
      hmade', h => by
      rw [entriesMadeBy] at hmade hmade'
      simp only [entriesToJson, List.cons.injEq, Json.object.injEq, Prod.mk.injEq,
        Json.array.injEq, true_and, and_true] at h
      obtain ⟨⟨haccepted, hotherwise⟩, hes⟩ := h
      rw [sameEntries]
      simp only [Bool.and_eq_true]
      exact ⟨⟨hv.sameEntries_of_toJson hmade.1 hmade'.1 haccepted,
        hv.sameEntries_of_toJson hmade.2.1 hmade'.2.1 hotherwise⟩,
        hv.sameEntries_of_toJson hmade.2.2 hmade'.2.2 hes⟩
  | .conditional (some terms) accepted otherwise :: es,
      .conditional (some terms') accepted' otherwise' :: fs, hmade, hmade', h => by
      rw [entriesMadeBy] at hmade hmade'
      simp only [entriesToJson, List.cons.injEq, Json.object.injEq, Prod.mk.injEq,
        Json.array.injEq, true_and, and_true] at h
      obtain ⟨⟨hterms, haccepted, hotherwise⟩, hes⟩ := h
      rw [sameEntries]
      simp only [Bool.and_eq_true]
      exact ⟨⟨⟨hv.sameTerms_of_toJson hmade.1 hmade'.1 hterms,
        hv.sameEntries_of_toJson hmade.2.1 hmade'.2.1 haccepted⟩,
        hv.sameEntries_of_toJson hmade.2.2.1 hmade'.2.2.1 hotherwise⟩,
        hv.sameEntries_of_toJson hmade.2.2.2 hmade'.2.2.2 hes⟩
  -- The fields of the entries at the front have different names, or one of the tests is `null`.
  | [], .action ⟨_, _, _⟩ :: _, _, _, h
  | [], .conditional none _ _ :: _, _, _, h
  | [], .conditional (some _) _ _ :: _, _, _, h
  | .action ⟨_, _, _⟩ :: _, [], _, _, h
  | .action ⟨_, _, _⟩ :: _, .conditional none _ _ :: _, _, _, h
  | .action ⟨_, _, _⟩ :: _, .conditional (some _) _ _ :: _, _, _, h
  | .conditional none _ _ :: _, [], _, _, h
  | .conditional none _ _ :: _, .action ⟨_, _, _⟩ :: _, _, _, h
  | .conditional none _ _ :: _, .conditional (some _) _ _ :: _, _, _, h
  | .conditional (some _) _ _ :: _, [], _, _, h
  | .conditional (some _) _ _ :: _, .action ⟨_, _, _⟩ :: _, _, _, h
  | .conditional (some _) _ _ :: _, .conditional none _ _ :: _, _, _, h => by
      simp [entriesToJson] at h

theorem optionsWithin_of_toJson (hv : v.IsDistinct) (table : List (String × Value)) :
    ∀ {options others : List (String × Value)}, optionsMadeBy v options → optionsMadeBy v others →
      optionsToJson options = optionsToJson others →
      (∀ option ∈ others, table.lookup option.1 = some option.2) →
      optionsWithin options table = true
  | [], _, _, _, _, _ => by rw [optionsWithin]
  | (name, value) :: options, [], _, _, h, _ => by simp [optionsToJson] at h
  | (name, value) :: options, (name', value') :: others, hmade, hmade', h, htable => by
      rw [optionsMadeBy] at hmade hmade'
      simp only [optionsToJson, List.cons.injEq, Prod.mk.injEq] at h
      obtain ⟨⟨rfl, hvalue⟩, hoptions⟩ := h
      obtain ⟨hfirst, hothers⟩ := List.forall_mem_cons.1 htable
      rw [optionsWithin]
      simp only [hfirst, Bool.and_eq_true]
      exact ⟨hv.same_of_toJson hmade.1 hmade'.1 hvalue,
        hv.optionsWithin_of_toJson table hmade.2 hmade'.2 hoptions hothers⟩

theorem sameTerms_of_toJson (hv : v.IsDistinct) : ∀ {ts us : List Term}, termsMadeBy v ts →
    termsMadeBy v us → termsToJson ts = termsToJson us → sameTerms ts us = true
  | [], [], _, _, _ => by rw [sameTerms]
  | ⟨none, joint⟩ :: ts, ⟨none, joint'⟩ :: us, hmade, hmade', h => by
      rw [termsMadeBy] at hmade hmade'
      simp only [termsToJson, List.cons.injEq, Json.object.injEq, Prod.mk.injEq, Json.bool.injEq,
        true_and, and_true] at h
      obtain ⟨hjoint, hts⟩ := h
      rw [sameTerms]
      simp only [Bool.and_eq_true, beq_iff_eq]
      exact ⟨Joint.eq_of_beq_and_eq hjoint, hv.sameTerms_of_toJson hmade hmade' hts⟩
  | ⟨some ⟨info, invert, none, rule⟩, joint⟩ :: ts,
      ⟨some ⟨info', invert', none, rule'⟩, joint'⟩ :: us, hmade, hmade', h => by
      rw [termsMadeBy] at hmade hmade'
      simp only [termsToJson, filterToJson, List.cons.injEq, Json.object.injEq, Prod.mk.injEq,
        Json.string.injEq, Json.bool.injEq, true_and, and_true] at h
      obtain ⟨⟨⟨hname, hinvert⟩, hjoint⟩, hts⟩ := h
      rw [sameTerms]
      simp only [Bool.and_eq_true, beq_iff_eq]
      exact ⟨⟨⟨hmade.1.id_eq hv.filters hmade'.1 hname, hinvert⟩, Joint.eq_of_beq_and_eq hjoint⟩,
        hv.sameTerms_of_toJson hmade.2 hmade'.2 hts⟩
  | ⟨some ⟨info, invert, some value, rule⟩, joint⟩ :: ts,
      ⟨some ⟨info', invert', some value', rule'⟩, joint'⟩ :: us, hmade, hmade', h => by
      rw [termsMadeBy] at hmade hmade'
      simp only [termsToJson, filterToJson, List.cons.injEq, Json.object.injEq, Prod.mk.injEq,
        Json.string.injEq, Json.bool.injEq, true_and, and_true] at h
      obtain ⟨⟨⟨hname, hinvert, hvalue⟩, hjoint⟩, hts⟩ := h
      rw [sameTerms]
      simp only [Bool.and_eq_true, beq_iff_eq]
      exact ⟨⟨⟨⟨hmade.1.id_eq hv.filters hmade'.1 hname, hinvert⟩,
        hv.same_of_toJson hmade.2.1 hmade'.2.1 hvalue⟩, Joint.eq_of_beq_and_eq hjoint⟩,
        hv.sameTerms_of_toJson hmade.2.2 hmade'.2.2 hts⟩
  -- One chain ends before the other, or one of the filters or values at the front is `null`.
  | [], ⟨none, _⟩ :: _, _, _, h
  | [], ⟨some ⟨_, _, none, _⟩, _⟩ :: _, _, _, h
  | [], ⟨some ⟨_, _, some _, _⟩, _⟩ :: _, _, _, h
  | ⟨none, _⟩ :: _, [], _, _, h
  | ⟨none, _⟩ :: _, ⟨some ⟨_, _, none, _⟩, _⟩ :: _, _, _, h
  | ⟨none, _⟩ :: _, ⟨some ⟨_, _, some _, _⟩, _⟩ :: _, _, _, h
  | ⟨some ⟨_, _, none, _⟩, _⟩ :: _, [], _, _, h
  | ⟨some ⟨_, _, none, _⟩, _⟩ :: _, ⟨none, _⟩ :: _, _, _, h
  | ⟨some ⟨_, _, none, _⟩, _⟩ :: _, ⟨some ⟨_, _, some _, _⟩, _⟩ :: _, _, _, h
  | ⟨some ⟨_, _, some _, _⟩, _⟩ :: _, [], _, _, h
  | ⟨some ⟨_, _, some _, _⟩, _⟩ :: _, ⟨none, _⟩ :: _, _, _, h
  | ⟨some ⟨_, _, some _, _⟩, _⟩ :: _, ⟨some ⟨_, _, none, _⟩, _⟩ :: _, _, _, h => by
      simp [termsToJson, filterToJson, Value.toJson_ne_null, (Value.toJson_ne_null _).symm] at h

end

/-- Lists that the vocabulary has made are the same if their compact texts are. -/
theorem same_of_compact (hv : v.IsDistinct) {list other : ActionList} (hmade : entriesMadeBy v list)
    (hmade' : entriesMadeBy v other) (h : list.toJson.compact = other.toJson.compact) :
    list.same other = true :=
  hv.sameEntries_of_toJson hmade hmade' (ActionList.toJson_eq_of_compact h)

end Vocabulary.IsDistinct

end WindowActions
