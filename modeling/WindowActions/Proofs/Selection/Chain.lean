import Mathlib.Data.List.SplitBy
import WindowActions.ActionList.Evaluate
import WindowActions.Proofs.Selection.Listed

/-!
# What a chain selects by itself

Without an incoming set, a chain is a formula: a term admits some clients, a group those that all
its terms admit, and the chain selects what the groups admit, one group behind the other. There is
one exception. The set of all clients is no list of clients, so a group of nothing but `all` makes
the whole chain select that set.

The groups need not be formed to get there. One pass over the terms, which carries the sets of the
closed groups and that of the open one along, ends with the same set.
-/

namespace WindowActions

/-- Whether a filter is for a client. -/
def Filter.admits (f : Filter) (c : Client) : Bool :=
  match f.rule with
  | .everything => !f.invert
  | .matching test => test c != f.invert

/-- Whether a filter is for all clients, whichever there are. -/
def Filter.isEverything (f : Filter) : Bool :=
  match f.rule with
  | .everything => !f.invert
  | .matching _ => false

namespace Term

/-- Whether a term is for a client. A term without a filter is for none. -/
def admits (term : Term) (c : Client) : Bool := term.filter.any (·.admits c)

/-- Whether a term is for all clients, whichever there are. -/
def isEverything (term : Term) : Bool := term.filter.any (·.isEverything)

end Term

/-- The clients that all terms of a group admit. -/
def ClientStore.admitted (store : ClientStore) (group : List Term) : List Client :=
  store.managed.filter fun c => group.all (·.admits c)

/-- A set is the set of all clients, or it is the list `cs`. -/
inductive ClientSet.Holds (store : ClientStore) (cs : List Client) : ClientSet → Bool → Prop
  | all : Holds store cs .all true
  | some {m : Members} (lists : m.Lists store cs) : Holds store cs (.some m) false

/-- A set is the set of all clients and these pass the test, or it lists those that do. -/
inductive ClientSet.Picks (store : ClientStore) (p : Client → Bool) : ClientSet → Bool → Prop
  | all (passes : ∀ c, p c = true) : Picks store p .all true
  | some {m : Members} (lists : m.Lists store (store.managed.filter p)) :
      Picks store p (.some m) false

namespace ClientSet

variable {store : ClientStore} {a b : ClientSet} {u v : Bool}

theorem Holds.eq_all_iff {cs : List Client} (h : a.Holds store cs u) : a = .all ↔ u = true := by
  cases h <;> simp

theorem Holds.clients {cs : List Client} (h : a.Holds store cs u) (hne : a ≠ .all) :
    a.clients store = cs := by
  cases h with
  | all => exact absurd rfl hne
  | some lists => exact lists.clients

theorem Picks.holds {p : Client → Bool} (h : a.Picks store p u) :
    a.Holds store (store.managed.filter p) u := by
  cases h with
  | all passes => exact .all
  | some lists => exact .some lists

theorem picks_empty {p : Client → Bool} (h : ∀ c, p c = false) : empty.Picks store p false := by
  have hnone : store.managed.filter p = [] := by simp [h]
  refine .some ?_
  rw [hnone]
  exact Members.lists_empty store

theorem filter_contains_filter (p q : Client → Bool) (cs : List Client) :
    ((cs.filter p).filter fun c => (cs.filter q).contains c) = cs.filter fun c => p c && q c := by
  rw [List.filter_filter]
  refine List.filter_congr ?_
  intro c hc
  have hmem : (cs.filter q).contains c = q c := by
    rw [Bool.eq_iff_iff, List.contains_iff_mem, List.mem_filter]
    exact and_iff_right hc
  rw [hmem, Bool.and_comm]

theorem Picks.intersection {p q : Client → Bool} (ha : a.Picks store p u)
    (hb : b.Picks store q v) :
    (a.intersection store b).Picks store (fun c => p c && q c) (u && v) := by
  cases ha with
  | all hp =>
      simp only [hp, Bool.true_and]
      exact hb
  | some hm =>
      cases hb with
      | all hq =>
          simp only [hq, Bool.and_true]
          exact .some hm
      | some hn =>
          obtain ⟨k, hk, hlists⟩ := hm.intersection hn
          rw [filter_contains_filter] at hlists
          rw [hk]
          exact .some hlists

theorem Holds.union {cs ds : List Client} (ha : a.Holds store cs u) (hb : b.Holds store ds v) :
    (a.union store b).Holds store (cs ++ ds).eraseDups (u || v) := by
  cases hb with
  | all =>
      rw [Bool.or_true]
      cases a <;> exact .all
  | some hn =>
      cases ha with
      | all => exact .all
      | some hm =>
          obtain ⟨k, hk, hlists⟩ := hm.union hn
          rw [hk]
          exact .some hlists

end ClientSet

theorem Filter.expand_picks (store : ClientStore) (f : Filter) :
    (f.expand store none).Picks store f.admits f.isEverything := by
  obtain ⟨info, invert, value, rule⟩ := f
  cases rule with
  | everything =>
      cases invert with
      | true => exact ClientSet.picks_empty fun c => rfl
      | false => exact .all fun c => rfl
  | matching test =>
      obtain ⟨m, hm, hlists⟩ := ClientSet.expand_none store fun c => test c != invert
      simp only [Filter.expand, hm]
      exact .some hlists

theorem Term.select_picks (store : ClientStore) (term : Term) :
    (term.select store none).Picks store term.admits term.isEverything := by
  obtain ⟨filter, joint⟩ := term
  cases filter with
  | none => exact ClientSet.picks_empty fun c => rfl
  | some f => exact f.expand_picks store

namespace TestChain

variable {store : ClientStore}

theorem foldl_intersection_picks {set : ClientSet} {p : Client → Bool} {u : Bool}
    (h : set.Picks store p u) (group : List Term) :
    ((group.map fun term => term.select store none).foldl (ClientSet.intersection store) set).Picks
      store (fun c => p c && group.all (·.admits c)) (u && group.all (·.isEverything)) := by
  induction group generalizing set p u with
  | nil => simpa using h
  | cons term group ih =>
      have hgroup := ih (h.intersection (term.select_picks store))
      simp only [Bool.and_assoc] at hgroup
      rw [List.map_cons, List.foldl_cons]
      exact hgroup

theorem selectGroup_picks {group : List Term} (h : group ≠ []) :
    (selectGroup store none group).Picks store (fun c => group.all (·.admits c))
      (group.all (·.isEverything)) := by
  cases group with
  | nil => exact absurd rfl h
  | cons term group =>
      simp only [List.all_cons]
      exact foldl_intersection_picks (term.select_picks store) group

/-- Groups whose sets are known make up what the sets list, one group behind the other. -/
theorem foldl_union_holds {select : List Term → ClientSet} {listed : List Term → List Client}
    {every : List Term → Bool} {groups : List (List Term)}
    (hselect : ∀ group ∈ groups, (select group).Holds store (listed group) (every group))
    {set : ClientSet} {cs : List Client} {u : Bool} (h : set.Holds store cs u)
    (nodup : cs.Nodup) :
    ((groups.map select).foldl (ClientSet.union store) set).Holds store
      (cs ++ groups.flatMap listed).eraseDups (u || groups.any every) := by
  induction groups generalizing set cs u with
  | nil =>
      rw [List.flatMap_nil, List.append_nil, eraseDups_of_nodup nodup, List.any_nil, Bool.or_false]
      exact h
  | cons group groups ih =>
      obtain ⟨hgroup, hgroups⟩ := List.forall_mem_cons.1 hselect
      have hrest := ih hgroups (h.union hgroup) (nodup_eraseDups _)
      rw [eraseDups_eraseDups_append, List.append_assoc, Bool.or_assoc] at hrest
      exact hrest

theorem combine_union_holds {select : List Term → ClientSet} {listed : List Term → List Client}
    {every : List Term → Bool} {groups : List (List Term)}
    (hselect : ∀ group ∈ groups, (select group).Holds store (listed group) (every group))
    (nodup : ∀ group ∈ groups, (listed group).Nodup) :
    (combine (ClientSet.union store) (groups.map select)).Holds store
      (groups.flatMap listed).eraseDups (groups.any every) := by
  cases groups with
  | nil => exact .some (Members.lists_empty store)
  | cons group groups =>
      obtain ⟨hgroup, hgroups⟩ := List.forall_mem_cons.1 hselect
      exact foldl_union_holds hgroups hgroup (List.forall_mem_cons.1 nodup).1

theorem evaluate_holds (chain : TestChain) (store : ClientStore) (hne : [] ∉ chain.groups) :
    (chain.evaluate store none).Holds store (chain.groups.flatMap store.admitted).eraseDups
      (chain.groups.any (·.all (·.isEverything))) :=
  combine_union_holds
    (fun _ hgroup => (selectGroup_picks (ne_of_mem_of_not_mem hgroup hne)).holds)
    fun _ _ => store.managed_nodup.filter _

/-- A term that is joined by `and` stands in one group with the term behind it. -/
abbrev joinsNext (term _next : Term) : Bool := term.joint == .and

theorem splitBy_cons_of_and {term : Term} {terms group : List Term} {others : List (List Term)}
    (hjoint : term.joint = .and) (h : terms.splitBy joinsNext = group :: others) :
    (term :: terms).splitBy joinsNext = (term :: group) :: others := by
  rw [List.splitBy_eq_iff] at h ⊢
  obtain ⟨hflatten, hne, hinside, hbetween⟩ := h
  obtain ⟨hgroup, hothers⟩ := not_or.1 (mt List.mem_cons.2 hne)
  obtain ⟨hfirst, hinside⟩ := List.forall_mem_cons.1 hinside
  obtain ⟨hbreak, hbetween⟩ := List.isChain_cons.1 hbetween
  refine ⟨by rw [hflatten]; rfl, by simp [hothers], ?_, ?_⟩
  · refine List.forall_mem_cons.2 ⟨List.isChain_cons.2 ⟨?_, hfirst⟩, hinside⟩
    intro next hnext
    rw [joinsNext, hjoint, beq_self_eq_true]
  · refine List.isChain_cons.2 ⟨?_, hbetween⟩
    intro next hnext
    obtain ⟨hlast, hhead, hjoins⟩ := hbreak next hnext
    refine ⟨List.cons_ne_nil _ _, hhead, ?_⟩
    rwa [List.getLast_cons hlast]

theorem splitBy_cons_of_or {term : Term} (hjoint : term.joint = .or) (terms : List Term) :
    (term :: terms).splitBy joinsNext = [term] :: terms.splitBy joinsNext := by
  have hsplit := List.splitBy_append (r := joinsNext) (l := [term]) (m := terms) ?_
  · exact hsplit
  · intro last hlast next _
    rw [List.getLast?_singleton, Option.mem_some_iff] at hlast
    rw [joinsNext, ← hlast, hjoint]
    rfl

theorem groups_cons_of_or {term : Term} (hjoint : term.joint = .or) (terms : List Term) :
    groups (term :: terms) = [term] :: groups terms := by
  rw [groups, hjoint]

theorem groups_cons_of_and {term : Term} {terms group : List Term} {others : List (List Term)}
    (hjoint : term.joint = .and) (h : groups terms = group :: others) :
    groups (term :: terms) = (term :: group) :: others := by
  rw [groups, hjoint, h]

theorem groups_singleton (term : Term) : groups [term] = [[term]] := by
  obtain ⟨filter, joint⟩ := term
  cases joint <;> rfl

theorem groups_eq_splitBy (chain : TestChain) : chain.groups = chain.splitBy joinsNext := by
  induction chain with
  | nil => rfl
  | cons term terms ih =>
      cases hjoint : term.joint with
      | or => rw [groups_cons_of_or hjoint, splitBy_cons_of_or hjoint, ih]
      | and =>
          cases hgroups : groups terms with
          | nil =>
              have hnil : terms = [] := List.splitBy_eq_nil.1 (ih.symm.trans hgroups)
              rw [hnil, groups_singleton]
              rfl
          | cons group others =>
              rw [groups_cons_of_and hjoint hgroups,
                splitBy_cons_of_and hjoint (ih.symm.trans hgroups)]

theorem groups_eq_nil_iff {terms : List Term} : groups terms = [] ↔ terms = [] := by
  rw [groups_eq_splitBy]
  exact List.splitBy_eq_nil

theorem nil_notMem_groups (chain : TestChain) : [] ∉ chain.groups := by
  rw [groups_eq_splitBy]
  exact List.nil_notMem_splitBy _ _

section Pass

variable (store : ClientStore) (incoming : Option ClientSet)

/-- A set combined with what came before it. The first one stands for itself. -/
def combineNext (op : ClientSet → ClientSet → ClientSet) (before : Option ClientSet)
    (set : ClientSet) : ClientSet :=
  before.elim set (op · set)

/-- The sets of a list one after the other, behind what came before them. -/
def combineAfter (op : ClientSet → ClientSet → ClientSet) :
    Option ClientSet → List ClientSet → Option ClientSet :=
  List.foldl fun before set => some (combineNext op before set)

/-- One pass over the terms of a chain. `result` is the set of the groups that are closed, `open?`
that of the terms which the open group has so far. A group is closed behind a term that is joined
by `or` and behind the last one. -/
def pass (result open? : Option ClientSet) : List Term → Option ClientSet
  | [] => result
  | term :: terms =>
    let group := combineNext (ClientSet.intersection store) open? (term.select store incoming)
    if term.joint = .or ∨ terms = [] then
      pass (some (combineNext (ClientSet.union store) result group)) none terms
    else
      pass result (some group) terms

/-- What groups add to `result` if the first of them goes on with the open one. -/
def passGroups (result open? : Option ClientSet) : List (List Term) → Option ClientSet
  | [] => result
  | group :: groups =>
    let terms := group.map fun term => term.select store incoming
    let first := (combineAfter (ClientSet.intersection store) open? terms).getD .empty
    combineAfter (ClientSet.union store) result
      (first :: groups.map (selectGroup store incoming))

theorem combineAfter_some (op : ClientSet → ClientSet → ClientSet) (set : ClientSet)
    (sets : List ClientSet) : combineAfter op (some set) sets = some (sets.foldl op set) := by
  induction sets generalizing set with
  | nil => rfl
  | cons next sets ih => exact ih (op set next)

theorem combineAfter_none (op : ClientSet → ClientSet → ClientSet) (sets : List ClientSet) :
    (combineAfter op none sets).getD .empty = combine op sets := by
  cases sets with
  | nil => rfl
  | cons set sets => exact congrArg (·.getD .empty) (combineAfter_some op set sets)

theorem passGroups_none (result : Option ClientSet) (groups : List (List Term)) :
    passGroups store incoming result none groups =
      combineAfter (ClientSet.union store) result (groups.map (selectGroup store incoming)) := by
  cases groups with
  | nil => rfl
  | cons group groups =>
      rw [passGroups, combineAfter_none]
      rfl

theorem pass_eq_passGroups (terms : List Term) (result open? : Option ClientSet) :
    pass store incoming result open? terms =
      passGroups store incoming result open? (groups terms) := by
  induction terms generalizing result open? with
  | nil => rw [pass, groups, passGroups]
  | cons term terms ih =>
      rw [pass]
      by_cases hclosed : term.joint = .or ∨ terms = []
      · have hgroups : groups (term :: terms) = [term] :: groups terms := by
          rcases hclosed with hor | rfl
          · exact groups_cons_of_or hor terms
          · exact groups_singleton term
        rw [if_pos hclosed, ih, hgroups, passGroups_none]
        rfl
      · obtain ⟨hor, hne⟩ := not_or.1 hclosed
        have hand : term.joint = .and := by
          cases hjoint : term.joint with
          | and => rfl
          | or => exact absurd hjoint hor
        rw [if_neg hclosed, ih]
        cases hterms : groups terms with
        | nil => exact absurd (groups_eq_nil_iff.1 hterms) hne
        | cons group others =>
            rw [groups_cons_of_and hand hterms]
            rfl

end Pass

/-- A chain selects what one pass over its terms ends with. -/
theorem evaluate_eq_pass (chain : TestChain) (store : ClientStore) (incoming : Option ClientSet) :
    chain.evaluate store incoming =
      let selected := (pass store incoming none none chain).getD .empty
      match incoming with
      | some set => selected.intersection store (set.duplicate store)
      | none => selected := by
  have hpass : (pass store incoming none none chain).getD .empty =
      combine (ClientSet.union store) (chain.groups.map (selectGroup store incoming)) := by
    rw [pass_eq_passGroups, passGroups_none, combineAfter_none]
  rw [hpass]
  rfl

/-- Without an incoming set, a chain selects all clients if one of its groups has no other terms
than `all`. Otherwise it selects the managed clients that a group admits, group after group, each
group in the order in which their management began. -/
theorem evaluate_alone (chain : TestChain) (store : ClientStore) :
    let groups := chain.splitBy fun term _ => term.joint == .and
    let selected := chain.evaluate store none
    (selected = .all ↔ ∃ group ∈ groups, ∀ term ∈ group, term.isEverything = true) ∧
    (selected ≠ .all → selected.clients store =
      (groups.flatMap fun group =>
        store.managed.filter fun c => group.all (·.admits c)).eraseDups) ∧
    evaluate [] store none = .empty := by
  intro groups selected
  have hholds := chain.evaluate_holds store chain.nil_notMem_groups
  rw [groups_eq_splitBy] at hholds
  refine ⟨?_, hholds.clients, rfl⟩
  rw [hholds.eq_all_iff, List.any_eq_true]
  simp only [List.all_eq_true]
  rfl

end TestChain

end WindowActions
