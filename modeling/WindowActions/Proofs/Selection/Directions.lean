import WindowActions.Builtin.Vocabulary
import WindowActions.Pattern.Engine
import WindowActions.Proofs.Membership.Lattice
import WindowActions.Proofs.Membership.Pruned
import WindowActions.Proofs.Selection.Nested
import WindowActions.Vocabulary.Resolve

/-!
# The two directions of a filter

A filter adds clients to a set, or it takes clients out of one. Both directions come down to the
set that the filter selects by itself: adding is the union with that set, and what is left after
taking out is the intersection with it. Either way the clients that were there before and still are
keep their order.

There is one case in which a union of sets is more than a union of their windows. If a client that
is not managed any more stands in a set and its window has got a new client, then the new client is
not added, since the window is not missing, but a union puts it in the place of the old one. With
managed clients in the set, the two are equal in every respect.

A filter under `no` has the same rule, with its outcome turned around. So a managed client is
selected by one of the two filters, and not by both.
-/

namespace WindowActions

namespace Members

variable {m : Members} {r : ClientRef} {rs es : List ClientRef}

/-- Adding a reference leaves those with other windows where they are. -/
theorem sublist_insert (h : es.Sublist m.entries) (hne : ∀ e ∈ es, e.window ≠ r.window) :
    es.Sublist (m.insert r).entries := by
  rw [insert]
  split
  case isTrue =>
      have hmap := h.map (replaced r)
      rwa [map_replaced_of_ne hne] at hmap
  case isFalse => exact h.trans (List.sublist_append_left _ _)

theorem sublist_insertAll (h : es.Sublist m.entries)
    (hne : ∀ r ∈ rs, ∀ e ∈ es, e.window ≠ r.window) : es.Sublist (m.insertAll rs).entries := by
  induction rs generalizing m with
  | nil => exact h
  | cons r rs ih =>
      obtain ⟨hr, hrest⟩ := List.forall_mem_cons.1 hne
      exact ih (sublist_insert h hr) hrest

theorem insert_of_mem (h : r ∈ m.entries) : m.insert r = m := by
  refine eq_of_entries_eq ?_
  have hsame : ∀ e ∈ m.entries, replaced r e = e := by
    intro e he
    by_cases hwindow : e.window = r.window
    · rw [replaced_of_eq hwindow, eq_of_window_eq he h hwindow]
    · exact replaced_of_ne hwindow
  rw [insert, dif_pos (List.mem_map_of_mem h)]
  show m.entries.map (replaced r) = m.entries
  rw [List.map_congr_left hsame, List.map_id']

/-- Adding references makes no difference where they stand already. -/
theorem insertAll_filter {p : ClientRef → Bool} (distinct : (rs.map (·.window)).Nodup)
    (h : ∀ r ∈ rs, p r = false → r ∈ m.entries) : m.insertAll (rs.filter p) = m.insertAll rs := by
  induction rs generalizing m with
  | nil => rfl
  | cons r rs ih =>
      obtain ⟨hr, hrest⟩ := List.forall_mem_cons.1 h
      rw [List.map_cons, List.nodup_cons] at distinct
      cases hp : p r with
      | false =>
          rw [List.filter_cons_of_neg (by simp [hp]), insertAll_cons, insert_of_mem (hr hp),
            ih distinct.2 hrest]
      | true =>
          rw [List.filter_cons_of_pos hp, insertAll_cons, insertAll_cons]
          refine ih distinct.2 fun e he hpe => mem_insert.2 (.inr ⟨hrest e he hpe, ?_⟩)
          intro hwindow
          exact distinct.1 (hwindow ▸ List.mem_map_of_mem he)

end Members

namespace ClientSet

variable {store : ClientStore} {m : Members} {c : Client}

/-- The managed clients of a set are those that pass the test it picks by. -/
theorem Picks.mem_clients {set : ClientSet} {p : Client → Bool} {u : Bool}
    (h : set.Picks store p u) (hc : c ∈ store.managed) :
    c ∈ set.clients store ↔ p c = true := by
  cases h with
  | all passes => exact iff_of_true hc (passes c)
  | some lists =>
      rw [lists.clients, List.mem_filter]
      exact and_iff_right hc

theorem union_empty (store : ClientStore) (set : ClientSet) : set.union store empty = set := by
  cases set <;> rfl

theorem union_all (store : ClientStore) (set : ClientSet) : set.union store all = all := by
  cases set <;> rfl

theorem intersection_empty (store : ClientStore) (set : ClientSet) :
    set.intersection store empty = empty := by
  cases set with
  | all => rfl
  | some m =>
      refine congrArg ClientSet.some (Members.eq_of_entries_eq ?_)
      exact List.filter_eq_nil_iff.2 fun r hr => by
        simp [contains, Members.find?, Members.empty]

theorem mem_missing {set : ClientSet} :
    c ∈ set.missing store ↔ c ∈ store.managed ∧ set.contains store c.window = false := by
  rw [missing, List.mem_filter, Bool.not_eq_true']

theorem contains_expand_none (store : ClientStore) (p : Client → Bool) (window : UInt32) :
    (expand store p none).contains store window =
      (store.managed.filter p).any (·.window == window) := by
  obtain ⟨n, hn, hlists⟩ := expand_none store p
  rw [hn, ← any_live_window, hlists.filter_isLive, hlists.entries_eq, List.any_map]
  rfl

/-- Only clients with windows that the set lacks are added. The windows of the others would make no
difference. -/
theorem contains_expand (store : ClientStore) (p : Client → Bool) (set : ClientSet)
    (window : UInt32) :
    (expand store p (Option.some set)).contains store window =
      (set.contains store window || (expand store p none).contains store window) := by
  cases set with
  | all => rfl
  | some m =>
      have hlive : ∀ r ∈ (((ClientSet.some m).missing store).filter p).map (·.ref),
          store.isLive r = true := by
        intro r hr
        obtain ⟨c, hc, rfl⟩ := List.mem_map.1 hr
        exact ClientStore.isLive_ref (mem_missing.1 (List.mem_filter.1 hc).1).1
      show (ClientSet.some (m.insertAll _)).contains store window = _
      rw [contains_expand_none, contains_insertAll hlive, Bool.eq_iff_iff, Bool.or_eq_true,
        Bool.or_eq_true]
      refine or_congr_right' fun hlacks => ?_
      rw [missing, List.any_map, List.any_filter, List.any_filter, List.any_filter,
        List.any_eq_true, List.any_eq_true]
      refine exists_congr fun c => and_congr_right fun _ => ?_
      rw [Bool.and_eq_true]
      refine and_iff_right_of_imp fun hc => ?_
      obtain ⟨-, hwindow⟩ := Bool.and_eq_true_iff.1 hc
      have heq : c.window = window := beq_iff_eq.1 hwindow
      rw [heq, Bool.not_eq_true']
      exact Bool.eq_false_of_not_eq_true hlacks

theorem isUniversal_expand (store : ClientStore) (p : Client → Bool) (set : ClientSet) :
    (expand store p (Option.some set)).isUniversal = set.isUniversal := by
  cases set <;> rfl

theorem contents_expand (store : ClientStore) (p : Client → Bool) (set : ClientSet) :
    (expand store p (Option.some set)).contents store =
      (set.union store (expand store p none)).contents store := by
  refine Prod.ext ?_ (funext fun window => ?_)
  · show (expand store p (Option.some set)).isUniversal = (set.union store _).isUniversal
    rw [isUniversal_expand, isUniversal_union]
    exact (Bool.or_false _).symm
  · show (expand store p (Option.some set)).contains store window =
      (set.union store _).contains store window
    rw [contains_expand, contains_union]

/-- With managed clients in the set, a union adds nothing that stands in the set already. -/
theorem expand_eq_union {set : ClientSet} (h : ∀ c ∈ set.clients store, c.managed = true)
    (p : Client → Bool) :
    expand store p (Option.some set) = set.union store (expand store p none) := by
  obtain ⟨n, hn, hlists⟩ := expand_none store p
  cases set with
  | all => rw [hn]; rfl
  | some m =>
      have hrefs : (((ClientSet.some m).missing store).filter p).map (·.ref) =
          n.entries.filter fun r => !(ClientSet.some m).contains store r.window := by
        rw [hlists.entries_eq, List.filter_map, missing, List.filter_filter, List.filter_filter]
        refine congrArg _ (List.filter_congr fun c _ => ?_)
        exact Bool.and_comm _ _
      rw [hn, union, hlists.filter_isLive]
      show ClientSet.some (m.insertAll _) = _
      rw [hrefs, Members.insertAll_filter n.windows_distinct]
      -- A window that is not missing is that of a managed client in the set, so of this client.
      intro r hr hcontains
      rw [hlists.entries_eq] at hr
      obtain ⟨c, hc, rfl⟩ := List.mem_map.1 hr
      rw [Bool.not_eq_false', contains_some_iff] at hcontains
      obtain ⟨d, hd, hentry, hwindow⟩ := hcontains
      have hmanaged := mem_managed_of_mem_clients h (mem_clients_some.2 ⟨hd, hentry⟩)
      rwa [← ClientStore.eq_of_window_eq hmanaged (hlists.managed c hc) hwindow]

/-- A store in which a window has got a new client, and somebody still holds the old one. -/
def succeededStore : ClientStore :=
  ((ClientStore.ofSpecs [⟨1, {}⟩]).retire 1 |>.manage 1 {}).2

/-- With the old client in the set, its window is not missing, but a union puts the new one there.
-/
theorem expand_ne_union :
    ¬ ∀ (store : ClientStore) (p : Client → Bool) (set : ClientSet),
      expand store p (Option.some set) = set.union store (expand store p none) := by
  intro h
  have hset := h succeededStore (fun _ => true) (.single ⟨0, 1⟩)
  revert hset
  decide

/-- The clients of a set keep their order when others are added. -/
theorem clients_sublist_expand (store : ClientStore) (p : Client → Bool) (m : Members) :
    ((ClientSet.some m).clients store).Sublist
      ((expand store p (Option.some (.some m))).clients store) := by
  have hentries : (m.entries.filter store.isLive).Sublist
      (m.insertAll ((((ClientSet.some m).missing store).filter p).map (·.ref))).entries := by
    refine Members.sublist_insertAll List.filter_sublist fun r hr e he => ?_
    -- Only entries of clients that are gone can be replaced: no window of a live one is missing.
    obtain ⟨c, hc, rfl⟩ := List.mem_map.1 hr
    obtain ⟨hentry, hlive⟩ := List.mem_filter.1 he
    have hlacks := (mem_missing.1 (List.mem_filter.1 hc).1).2
    intro hwindow
    have hfind : m.find? c.window = Option.some e :=
      Members.find?_eq_some_iff.2 ⟨hentry, hwindow⟩
    rw [contains, hfind, Option.any_some, hlive] at hlacks
    cases hlacks
  have hclients := hentries.filterMap store.lookup
  rwa [filterMap_lookup_filter fun r hr hlive => hlive] at hclients

/-- The clients that are left of a set keep their order. -/
theorem clients_reduce_sublist (store : ClientStore) (p : Client → Bool) (set : ClientSet) :
    (((set.reduce store p).getD empty).clients store).Sublist (set.clients store) := by
  cases set with
  | all =>
      obtain ⟨n, hn, hlists⟩ := expand_none store p
      rw [getD_reduce_all, hn, hlists.clients]
      exact List.filter_sublist
  | some m =>
      rw [getD_reduce_some]
      exact List.filter_sublist.filterMap store.lookup

/-- With managed clients in the set, those that pass a test are those with a window in the set that
the test selects by itself. -/
theorem reduce_eq_intersection {set : ClientSet} (h : ∀ c ∈ set.clients store, c.managed = true)
    (p : Client → Bool) :
    (set.reduce store p).getD empty = set.intersection store (expand store p none) := by
  obtain ⟨n, hn, hlists⟩ := expand_none store p
  cases set with
  | all => exact getD_reduce_all store p
  | some m =>
      rw [getD_reduce_some, hn]
      refine congrArg ClientSet.some (Members.eq_of_entries_eq (List.filter_congr fun r hr => ?_))
      rw [← ClientStore.lookup_isSome]
      cases hlookup : store.lookup r with
      | none => rfl
      | some c =>
          obtain ⟨hc, rfl⟩ := ClientStore.lookup_eq_some_iff.1 hlookup
          have hmanaged := mem_managed_of_mem_clients h (mem_clients_some.2 ⟨hc, hr⟩)
          show p c = (ClientSet.some n).contains store c.window
          rw [Bool.eq_iff_iff, hlists.contains_iff hmanaged, List.mem_filter]
          exact (and_iff_right hmanaged).symm

end ClientSet

namespace Filter

variable {store : ClientStore} {f g : Filter} {set : ClientSet} {c : Client}

/-- By itself, a filter selects the managed clients that it admits. -/
theorem mem_expand_none (f : Filter) (hc : c ∈ store.managed) :
    c ∈ (f.expand store none).clients store ↔ f.admits c = true :=
  (f.expand_picks store).mem_clients hc

theorem contents_expand (f : Filter) (store : ClientStore) (set : ClientSet) :
    (f.expand store (some set)).contents store =
      (set.union store (f.expand store none)).contents store := by
  obtain ⟨info, invert, value, rule⟩ := f
  cases rule with
  | everything =>
      cases invert with
      | true => exact congrArg (ClientSet.contents store) (ClientSet.union_empty store set).symm
      | false => exact congrArg (ClientSet.contents store) (ClientSet.union_all store set).symm
  | matching test => exact ClientSet.contents_expand store (fun c => test c != invert) set

theorem expand_eq_union (f : Filter) (h : ∀ c ∈ set.clients store, c.managed = true) :
    f.expand store (some set) = set.union store (f.expand store none) := by
  obtain ⟨info, invert, value, rule⟩ := f
  cases rule with
  | everything =>
      cases invert with
      | true => exact (ClientSet.union_empty store set).symm
      | false => exact (ClientSet.union_all store set).symm
  | matching test => exact ClientSet.expand_eq_union h fun c => test c != invert

theorem reduce_eq_intersection (f : Filter) (h : ∀ c ∈ set.clients store, c.managed = true) :
    (f.reduce store set).getD .empty = set.intersection store (f.expand store none) := by
  obtain ⟨info, invert, value, rule⟩ := f
  cases rule with
  | everything =>
      cases invert with
      | true => exact (ClientSet.intersection_empty store set).symm
      | false => exact (ClientSet.intersection_all store set).symm
  | matching test => exact ClientSet.reduce_eq_intersection h fun c => test c != invert

theorem clients_sublist_expand (f : Filter) (h : f.expand store (some set) ≠ .all) :
    (set.clients store).Sublist ((f.expand store (some set)).clients store) := by
  obtain ⟨info, invert, value, rule⟩ := f
  cases rule with
  | everything =>
      cases invert with
      | true => exact List.Sublist.refl _
      | false => exact absurd rfl h
  | matching test =>
      cases set with
      | all => exact absurd rfl h
      | some m => exact ClientSet.clients_sublist_expand store (fun c => test c != invert) m

theorem clients_reduce_sublist (f : Filter) (store : ClientStore) (set : ClientSet) :
    (((f.reduce store set).getD .empty).clients store).Sublist (set.clients store) := by
  obtain ⟨info, invert, value, rule⟩ := f
  cases rule with
  | everything =>
      cases invert with
      | true => exact List.nil_sublist _
      | false => exact List.Sublist.refl _
  | matching test => exact ClientSet.clients_reduce_sublist store (fun c => test c != invert) set

theorem admits_of_opposite (hrule : g.rule = f.rule) (hinvert : g.invert = !f.invert)
    (c : Client) : g.admits c = !f.admits c := by
  obtain ⟨info, invert, value, rule⟩ := f
  obtain ⟨info', invert', value', rule'⟩ := g
  cases hrule
  cases hinvert
  cases rule with
  | everything => rfl
  | matching test =>
      show (test c != !invert) = !(test c != invert)
      cases test c <;> cases invert <;> rfl

end Filter

namespace Vocabulary

variable {v : Vocabulary} {name : String} {value : Option Value} {f g : Filter}

theorem stripNegation?_no (hname : name ≠ "") : stripNegation? ("no" ++ name) = some name := by
  cases hchars : name.toList with
  | nil => exact absurd (String.toList_eq_nil_iff.1 hchars) hname
  | cons c cs =>
      have hkey : ("no" ++ name).toList = 'n' :: 'o' :: c :: cs := by
        rw [String.toList_append, hchars]
        rfl
      rw [stripNegation?, hkey]
      show some (String.ofList (c :: cs)) = some name
      rw [← hchars, String.ofList_toList]

theorem exists_of_makeFilter (h : (v.makeFilter name value).result = .ok (some f)) :
    ∃ definition, v.findFilter? name = some (definition, f.invert) ∧
      definition.setup value = .ok f.rule := by
  rw [makeFilter] at h
  split at h
  case h_1 => cases h
  case h_2 definition invert hfound =>
      split at h
      case h_1 => cases h
      case h_2 rule hsetup =>
          cases h
          exact ⟨definition, hfound, hsetup⟩

/-- A name that is registered and `no` in front of it stand for opposite filters. -/
theorem opposite_of_no (hname : v.filters.find? name ≠ none)
    (hno : v.filters.find? ("no" ++ name) = none)
    (hf : (v.makeFilter name value).result = .ok (some f))
    (hg : (v.makeFilter ("no" ++ name) value).result = .ok (some g)) :
    g.rule = f.rule ∧ g.invert = !f.invert := by
  obtain ⟨named, hnamed⟩ := Option.ne_none_iff_exists'.1 hname
  obtain ⟨definition, hfound, hsetup⟩ := exists_of_makeFilter hf
  obtain ⟨opposite, hopposite, hsetup'⟩ := exists_of_makeFilter hg
  rw [findFilter?, hnamed] at hfound
  rw [findFilter?, hno] at hopposite
  -- There is nothing behind the `no` if the name is empty, and then there is no filter.
  have hne : name ≠ "" := by
    rintro rfl
    cases hopposite
  simp only [stripNegation?_no hne, Option.bind_some, hnamed, Option.map_some, Option.some.injEq,
    Prod.mk.injEq] at hfound hopposite
  obtain ⟨rfl, hinvert⟩ := hfound
  obtain ⟨rfl, hinvert'⟩ := hopposite
  rw [hsetup, Except.ok.injEq] at hsetup'
  exact ⟨hsetup'.symm, by rw [← hinvert, ← hinvert']; rfl⟩

end Vocabulary

namespace Filter

/-- What a filter adds to a set and what it leaves of a set is said by the set that it selects by
itself, and `no` in front of its name selects the others. -/
theorem expand_reduce_agree :
    (∀ (f : Filter) (store : ClientStore) (set : ClientSet),
      let selected := f.expand store none
      let added := f.expand store (some set)
      let left := (f.reduce store set).getD .empty
      (∀ c ∈ store.managed, c ∈ selected.clients store ↔ f.admits c = true) ∧
      added.contents store = (set.union store selected).contents store ∧
      (set = .all ∨ (∀ c ∈ set.clients store, c.managed = true) →
        added = set.union store selected ∧ left = set.intersection store selected) ∧
      (added ≠ .all → (set.clients store).Sublist (added.clients store)) ∧
      (left.clients store).Sublist (set.clients store)) ∧
    ∀ (v : Vocabulary) (name : String) (value : Option Value) (f g : Filter),
      v.filters.find? name ≠ none → v.filters.find? ("no" ++ name) = none →
      (v.makeFilter name value).result = .ok (some f) →
      (v.makeFilter ("no" ++ name) value).result = .ok (some g) →
      ∀ store : ClientStore, ∀ c ∈ store.managed,
        Xor (c ∈ (f.expand store none).clients store)
          (c ∈ (g.expand store none).clients store) := by
  constructor
  · intro f store set selected added left
    refine ⟨fun c hc => f.mem_expand_none hc, f.contents_expand store set, fun h => ?_,
      f.clients_sublist_expand, f.clients_reduce_sublist store set⟩
    have hmanaged : ∀ c ∈ set.clients store, c.managed = true := by
      rcases h with rfl | h
      · exact fun c hc => (List.mem_filter.1 hc).2
      · exact h
    exact ⟨f.expand_eq_union hmanaged, f.reduce_eq_intersection hmanaged⟩
  · intro v name value f g hname hno hf hg store c hc
    obtain ⟨hrule, hinvert⟩ := Vocabulary.opposite_of_no hname hno hf hg
    rw [f.mem_expand_none hc, g.mem_expand_none hc, admits_of_opposite hrule hinvert]
    cases f.admits c with
    | false => exact .inr ⟨rfl, Bool.false_ne_true⟩
    | true => exact .inl ⟨rfl, Bool.false_ne_true⟩

/-- The urgent client is added behind the other one, which is the one that `nourgent` selects. -/
theorem expand_reduce_agree_urgent :
    let urgent : Filter := ⟨⟨1, "urgent"⟩, false, none, .matching (·.state.urgent)⟩
    let nourgent : Filter := ⟨⟨1, "urgent"⟩, true, none, .matching (·.state.urgent)⟩
    let filters := Vocabulary.builtin.filters
    let store := ClientStore.ofSpecs [⟨1, { urgent := true }⟩, ⟨2, {}⟩]
    let set := ClientSet.single ⟨1, 2⟩
    let added := urgent.expand store (some set)
    (∀ c ∈ set.clients store, c.managed = true) ∧
    added = set.union store (urgent.expand store none) ∧
    (urgent.reduce store set).getD .empty = set.intersection store (urgent.expand store none) ∧
    added ≠ .all ∧ (set.clients store).Sublist (added.clients store) ∧
    (added.clients store).map (·.window) = [2, 1] ∧
    filters.find? "urgent" ≠ none ∧ filters.find? "nourgent" = none ∧
    (Vocabulary.builtin.makeFilter "urgent" none).result = .ok (some urgent) ∧
    (Vocabulary.builtin.makeFilter "nourgent" none).result = .ok (some nourgent) ∧
    ∀ c ∈ store.managed, Xor (c ∈ (urgent.expand store none).clients store)
      (c ∈ (nourgent.expand store none).clients store) := by
  intro urgent nourgent filters store set added
  have hmanaged : ∀ c ∈ set.clients store, c.managed = true := by decide
  have hfinite : added ≠ .all := by decide
  have hname : filters.find? "urgent" ≠ none := by rintro ⟨⟩
  obtain ⟨-, -, hagree, horder, -⟩ := expand_reduce_agree.1 urgent store set
  obtain ⟨hadded, hleft⟩ := hagree (.inr hmanaged)
  have hopposite := expand_reduce_agree.2 Vocabulary.builtin "urgent" none urgent nourgent hname
    rfl rfl rfl store
  exact ⟨hmanaged, hadded, hleft, hfinite, horder hfinite, by decide, hname, rfl, rfl, rfl,
    hopposite⟩

end Filter

end WindowActions
