import WindowActions.Proofs.Membership.Entries
import WindowActions.Proofs.Selection.Chain

/-!
# What a chain selects inside of a set

With an incoming set a term does not collect clients, it narrows that set down, and what is selected
is compared with the incoming set once more in the end. Still it is the same formula that decides.
With the set of all clients a chain selects what it selects by itself, and with a finite set of
managed clients it selects those of them, in their order.
-/

namespace WindowActions

namespace Members

variable {store : ClientStore} {m : Members} {cs : List Client}

/-- The copy of a set lists its clients, if all of them are managed. -/
theorem lists_duplicate (h : ∀ c ∈ (ClientSet.some m).clients store, c.managed = true) :
    (m.filter store.isLive).Lists store ((ClientSet.some m).clients store) := by
  constructor
  · exact (ClientSet.refs_clients_some store m).symm
  · intro c hc
    exact ClientSet.mem_managed_of_mem_clients h hc

theorem Lists.filter (h : m.Lists store cs) (p : Client → Bool) :
    (m.filter fun r => (store.lookup r).any p).Lists store (cs.filter p) := by
  refine ⟨?_, fun c hc => h.managed c (List.mem_filter.1 hc).1⟩
  show m.entries.filter _ = _
  rw [h.entries_eq, List.filter_map]
  refine congrArg _ (List.filter_congr fun c hc => ?_)
  show (store.lookup c.ref).any p = p c
  rw [ClientStore.lookup_ref (h.managed c hc)]
  rfl

end Members

namespace ClientSet

variable {store : ClientStore} {set : ClientSet} {m : Members} {window : UInt32}

/-- A set without entries is the empty one. -/
theorem getD_ite_isEmpty (m : Members) :
    (if m.entries.isEmpty then none else Option.some (ClientSet.some m)).getD empty = .some m := by
  by_cases h : m.entries = []
  · have hempty : Members.empty = m := Members.eq_of_entries_eq h.symm
    rw [if_pos (List.isEmpty_iff.2 h), Option.getD_none, empty, hempty]
  · rw [if_neg (mt List.isEmpty_iff.1 h), Option.getD_some]

theorem getD_reduce_all (store : ClientStore) (p : Client → Bool) :
    (ClientSet.all.reduce store p).getD empty = expand store p none := by
  obtain ⟨m, hm, hlists⟩ := expand_none store p
  have heq : Members.ofManaged store p = m := Members.eq_of_entries_eq hlists.entries_eq.symm
  rw [hm, ← heq]
  exact getD_ite_isEmpty _

theorem getD_reduce_some (store : ClientStore) (p : Client → Bool) (m : Members) :
    ((ClientSet.some m).reduce store p).getD empty =
      .some (m.filter fun r => (store.lookup r).any p) :=
  getD_ite_isEmpty _

theorem intersection_all (store : ClientStore) (set : ClientSet) :
    set.intersection store .all = set := by
  cases set <;> rfl

theorem Holds.intersection_filter {cs : List Client} {p q : Client → Bool} {a b : ClientSet}
    (ha : a.Holds store (cs.filter p) false) (hb : b.Holds store (cs.filter q) false) :
    (a.intersection store b).Holds store (cs.filter fun c => p c && q c) false := by
  cases ha with
  | some hm =>
      cases hb with
      | some hn =>
          obtain ⟨k, hk, hlists⟩ := hm.intersection hn
          rw [filter_contains_filter] at hlists
          rw [hk]
          exact .some hlists

/-- Comparing with the set that was narrowed down takes nothing away. -/
theorem Holds.intersection_of_subset {cs ds : List Client} {a : ClientSet}
    (ha : a.Holds store cs false) (hm : m.Lists store ds) (hsub : ∀ c ∈ cs, c ∈ ds) :
    (a.intersection store (.some m)).Holds store cs false := by
  cases ha with
  | some hn =>
      obtain ⟨k, hk, hlists⟩ := hn.intersection hm
      have hfilter : cs.filter (fun c => ds.contains c) = cs := by
        rw [List.filter_eq_self]
        exact fun c hc => List.contains_iff_mem.2 (hsub c hc)
      rw [hfilter] at hlists
      rw [hk]
      exact .some hlists

theorem contains_iff_clients (h : set ≠ .all) :
    set.contains store window = true ↔ ∃ c ∈ set.clients store, c.window = window := by
  cases set with
  | all => exact absurd rfl h
  | some m => simp only [contains_some_iff, mem_clients_some, and_assoc]

end ClientSet

theorem Filter.admits_of_isEverything {f : Filter} (h : f.isEverything = true) (c : Client) :
    f.admits c = true := by
  obtain ⟨info, invert, value, rule⟩ := f
  cases rule with
  | everything => exact h
  | matching test => cases h

namespace Term

variable {store : ClientStore} {m : Members} {cs : List Client}

theorem admits_of_isEverything {term : Term} (h : term.isEverything = true) (c : Client) :
    term.admits c = true := by
  obtain ⟨filter, joint⟩ := term
  cases filter with
  | none => cases h
  | some f => exact f.admits_of_isEverything h c

/-- To narrow down the set of all clients is to collect clients. -/
theorem select_all (term : Term) (store : ClientStore) :
    term.select store (some .all) = term.select store none := by
  obtain ⟨filter, joint⟩ := term
  cases filter with
  | none => rfl
  | some f =>
      obtain ⟨info, invert, value, rule⟩ := f
      cases rule with
      | everything => cases invert <;> rfl
      | matching test => exact ClientSet.getD_reduce_all store fun c => test c != invert

theorem select_holds (term : Term) (h : (m.filter store.isLive).Lists store cs) :
    (term.select store (some (.some m))).Holds store (cs.filter term.admits) false := by
  obtain ⟨filter, joint⟩ := term
  cases filter with
  | none =>
      have hnone : cs.filter (Term.admits ⟨none, joint⟩) = [] :=
        List.filter_eq_nil_iff.2 fun _ _ => Bool.false_ne_true
      rw [hnone]
      exact .some (Members.lists_empty store)
  | some f =>
      obtain ⟨info, invert, value, rule⟩ := f
      cases rule with
      | everything =>
          cases invert with
          | true =>
              have hnone : cs.filter (Term.admits ⟨some ⟨info, true, value, .everything⟩, joint⟩) =
                  [] := List.filter_eq_nil_iff.2 fun _ _ => Bool.false_ne_true
              rw [hnone]
              exact .some (Members.lists_empty store)
          | false =>
              have hall : cs.filter (Term.admits ⟨some ⟨info, false, value, .everything⟩, joint⟩) =
                  cs := List.filter_eq_self.2 fun _ _ => rfl
              rw [hall]
              exact .some h
      | matching test =>
          simp only [select, Filter.reduce, ClientSet.duplicate, ClientSet.getD_reduce_some]
          exact .some (h.filter fun c => test c != invert)

end Term

namespace TestChain

variable {store : ClientStore} {m : Members} {cs : List Client}

theorem foldl_intersection_holds (h : (m.filter store.isLive).Lists store cs) {set : ClientSet}
    {p : Client → Bool} (hset : set.Holds store (cs.filter p) false) (group : List Term) :
    ((group.map fun term => term.select store (some (.some m))).foldl
      (ClientSet.intersection store) set).Holds store
      (cs.filter fun c => p c && group.all (·.admits c)) false := by
  induction group generalizing set p with
  | nil => simpa using hset
  | cons term group ih =>
      have hgroup := ih (hset.intersection_filter (term.select_holds h))
      simp only [Bool.and_assoc] at hgroup
      rw [List.map_cons, List.foldl_cons]
      exact hgroup

theorem selectGroup_holds (h : (m.filter store.isLive).Lists store cs) {group : List Term}
    (hgroup : group ≠ []) :
    (selectGroup store (some (.some m)) group).Holds store
      (cs.filter fun c => group.all (·.admits c)) false := by
  cases group with
  | nil => exact absurd rfl hgroup
  | cons term group => exact foldl_intersection_holds h (term.select_holds h) group

theorem evaluate_all (chain : TestChain) (store : ClientStore) :
    chain.evaluate store (some .all) = chain.evaluate store none := by
  have hgroup : selectGroup store (some .all) = selectGroup store none := by
    funext group
    simp only [selectGroup, Term.select_all]
  show (combine _ _).intersection store .all = combine _ _
  rw [ClientSet.intersection_all, hgroup]

theorem evaluate_some_holds (chain : TestChain) (h : (m.filter store.isLive).Lists store cs) :
    (chain.evaluate store (some (.some m))).Holds store
      (chain.groups.flatMap fun group =>
        cs.filter fun c => group.all (·.admits c)).eraseDups false := by
  have hgroups : ∀ group ∈ chain.groups, (selectGroup store (some (.some m)) group).Holds store
      (cs.filter fun c => group.all (·.admits c)) false := fun group hgroup =>
    selectGroup_holds h (ne_of_mem_of_not_mem hgroup chain.nil_notMem_groups)
  have hselected := combine_union_holds hgroups fun _ _ => h.nodup.filter _
  have hnone : (chain.groups.any fun _ => false) = false := by simp
  rw [hnone] at hselected
  refine hselected.intersection_of_subset h fun c hc => ?_
  obtain ⟨group, -, hmem⟩ := List.mem_flatMap.1 (List.mem_eraseDups.1 hc)
  exact (List.mem_filter.1 hmem).1

/-- Whether a client passes a chain: one of its groups admits the client. -/
def Passes (chain : TestChain) (c : Client) : Prop :=
  ∃ group ∈ chain.groups, group.all (·.admits c) = true

theorem mem_selected_iff {chain : TestChain} {c : Client} :
    c ∈ (chain.groups.flatMap fun group =>
        cs.filter fun c => group.all (·.admits c)).eraseDups ↔ c ∈ cs ∧ chain.Passes c := by
  simp only [List.mem_eraseDups, List.mem_flatMap, List.mem_filter, Passes]
  constructor
  · rintro ⟨group, hgroup, hc, hadmits⟩
    exact ⟨hc, group, hgroup, hadmits⟩
  · rintro ⟨hc, group, hgroup, hadmits⟩
    exact ⟨group, hgroup, hc, hadmits⟩

/-- By itself, a chain selects a managed client exactly if the client passes it. -/
theorem contains_evaluate_none (chain : TestChain) {c : Client} (hc : c ∈ store.managed) :
    (chain.evaluate store none).contains store c.window = true ↔ chain.Passes c := by
  have hholds := chain.evaluate_holds store chain.nil_notMem_groups
  by_cases hselected : chain.evaluate store none = .all
  · obtain ⟨group, hgroup, hevery⟩ := List.any_eq_true.1 (hholds.eq_all_iff.1 hselected)
    refine iff_of_true (by rw [hselected]; rfl) ⟨group, hgroup, List.all_eq_true.2 ?_⟩
    intro term hterm
    exact term.admits_of_isEverything (List.all_eq_true.1 hevery term hterm) c
  · rw [ClientSet.contains_iff_clients hselected, hholds.clients hselected]
    constructor
    · rintro ⟨d, hd, hwindow⟩
      obtain ⟨hmanaged, hpasses⟩ := mem_selected_iff.1 hd
      rwa [← ClientStore.eq_of_window_eq hmanaged hc hwindow]
    · intro hpasses
      exact ⟨c, mem_selected_iff.2 ⟨hc, hpasses⟩, rfl⟩

/-- Inside of the set of all clients, a chain selects what it selects by itself. Inside of a finite
set of managed clients it selects those that it selects by itself, group after group, each group in
the order of that set. -/
theorem evaluate_inside (chain : TestChain) (store : ClientStore) :
    chain.evaluate store (some .all) = chain.evaluate store none ∧
    ∀ incoming : Members, (∀ c ∈ (ClientSet.some incoming).clients store, c.managed = true) →
      let groups := chain.splitBy fun term _ => term.joint == .and
      let inside := (ClientSet.some incoming).clients store
      let selected := chain.evaluate store (some (.some incoming))
      (∀ window, selected.contains store window = true ↔
        (ClientSet.some incoming).contains store window = true ∧
          (chain.evaluate store none).contains store window = true) ∧
      selected ≠ .all ∧
      selected.clients store =
        (groups.flatMap fun group =>
          inside.filter fun c => group.all (·.admits c)).eraseDups := by
  refine ⟨chain.evaluate_all store, ?_⟩
  intro incoming hmanaged groups inside selected
  have hholds : selected.Holds store _ false :=
    chain.evaluate_some_holds (Members.lists_duplicate hmanaged)
  have hfinite : selected ≠ .all := fun hall => Bool.false_ne_true (hholds.eq_all_iff.1 hall)
  have hclients := hholds.clients hfinite
  refine ⟨fun window => ?_, hfinite, ?_⟩
  · have hmem : ∀ c ∈ inside, c ∈ store.managed := fun c hc =>
      List.mem_filter.2 ⟨ClientSet.mem_live_of_mem_clients hc, hmanaged c hc⟩
    have hincoming : ClientSet.some incoming ≠ .all := by simp
    rw [ClientSet.contains_iff_clients hfinite, hclients,
      ClientSet.contains_iff_clients hincoming]
    simp only [mem_selected_iff]
    constructor
    · rintro ⟨c, ⟨hc, hpasses⟩, rfl⟩
      exact ⟨⟨c, hc, rfl⟩, (chain.contains_evaluate_none (hmem c hc)).2 hpasses⟩
    · rintro ⟨⟨c, hc, rfl⟩, hcontains⟩
      exact ⟨c, ⟨hc, (chain.contains_evaluate_none (hmem c hc)).1 hcontains⟩, rfl⟩
  · rw [hclients, groups_eq_splitBy]

/-- The icon comes first since it is selected by an earlier group, the others keep the order of the
set, and the client that is gone is not selected. -/
theorem evaluate_inside_reordered :
    let urgent : Filter := ⟨⟨1, "urgent"⟩, false, none, .matching (·.state.urgent)⟩
    let iconic : Filter := ⟨⟨3, "iconic"⟩, false, none, .matching (·.state.iconic)⟩
    let chain : TestChain := [⟨some urgent, .and⟩, ⟨some iconic, .or⟩, ⟨none, .or⟩,
      ⟨some urgent, .or⟩]
    let store := (ClientStore.ofSpecs [⟨1, { urgent := true }⟩, ⟨2, { urgent := true }⟩,
      ⟨3, { urgent := true }⟩, ⟨4, { urgent := true, iconic := true }⟩]).unmanage 2
    let incoming := Members.empty.insertAll [⟨2, 3⟩, ⟨1, 2⟩, ⟨3, 4⟩, ⟨0, 1⟩]
    (∀ c ∈ (ClientSet.some incoming).clients store, c.managed = true) ∧
    ((chain.evaluate store (some (.some incoming))).clients store).map (·.window) = [4, 3, 1] := by
  intro urgent iconic chain store incoming
  have hmanaged : ∀ c ∈ (ClientSet.some incoming).clients store, c.managed = true := by decide
  refine ⟨hmanaged, ?_⟩
  rw [((chain.evaluate_inside store).2 incoming hmanaged).2.2]
  decide

end TestChain

end WindowActions
