import WindowActions.Engine.Run
import WindowActions.Proofs.Membership.Entries
import WindowActions.Proofs.Selection.Listed

/-!
# Conditionals inside of others

A conditional inside of another one selects only clients that the other one has selected, whatever
its chain is and also if it has none. The reason is that a term only narrows down the incoming set,
and that combining sets makes up no clients.
-/

namespace WindowActions

namespace ClientSet

variable {store : ClientStore} {set other outer : ClientSet} {c : Client}

/-- All clients of the set are clients of the outer one. -/
def Within (store : ClientStore) (set outer : ClientSet) : Prop :=
  ∀ c ∈ set.clients store, c ∈ outer.clients store

theorem Within.refl (store : ClientStore) (set : ClientSet) : set.Within store set := fun _ h => h

theorem within_empty (store : ClientStore) (outer : ClientSet) :
    ClientSet.empty.Within store outer := by
  intro c hc
  cases hc

theorem within_filter (m : Members) (p : ClientRef → Bool) :
    (ClientSet.some (m.filter p)).Within store (.some m) := by
  intro c hc
  rw [mem_clients_some] at hc ⊢
  exact ⟨hc.1, (Members.mem_filter.1 hc.2).1⟩

theorem within_duplicate (store : ClientStore) (set : ClientSet) :
    (set.duplicate store).Within store set := by
  cases set with
  | all => exact .refl store .all
  | some m => exact within_filter m store.isLive

theorem Within.union (h : set.Within store outer) (h' : other.Within store outer) :
    (set.union store other).Within store outer := by
  cases other with
  | all => cases set <;> exact h'
  | some n =>
      cases set with
      | all => exact h
      | some m =>
          intro c hc
          rw [ClientSet.union, mem_clients_some] at hc
          rcases Members.mem_of_mem_insertAll hc.2 with hmem | hmem
          · exact h c (mem_clients_some.2 ⟨hc.1, hmem⟩)
          · exact h' c (mem_clients_some.2 ⟨hc.1, (List.mem_filter.1 hmem).1⟩)

theorem Within.intersection (h : set.Within store outer) (h' : other.Within store outer) :
    (set.intersection store other).Within store outer := by
  cases set with
  | all => exact h'
  | some m =>
      cases other with
      | all => exact h
      | some n => exact fun c hc => h c (within_filter m _ c hc)

theorem within_reduce {p : Client → Bool} (h : set.reduce store p = Option.some other) :
    other.Within store set := by
  cases set with
  | all =>
      have hlists : (Members.ofManaged store p).Lists store (store.managed.filter p) :=
        ⟨rfl, fun c hc => (List.mem_filter.1 hc).1⟩
      simp only [reduce] at h
      split at h
      · cases h
      · cases h
        intro c hc
        rw [hlists.clients] at hc
        exact (List.mem_filter.1 hc).1
  | some m =>
      simp only [reduce] at h
      split at h
      · cases h
      · cases h
        exact within_filter m _

end ClientSet

theorem Filter.within_reduce (f : Filter) {store : ClientStore} {set other : ClientSet}
    (h : f.reduce store set = some other) : other.Within store set := by
  obtain ⟨info, invert, value, rule⟩ := f
  cases rule with
  | everything =>
      simp only [Filter.reduce] at h
      split at h
      · cases h
      · cases h
        exact ClientSet.Within.refl store set
  | matching test => exact ClientSet.within_reduce h

theorem Term.select_within (term : Term) (store : ClientStore) (set : ClientSet) :
    (term.select store (some set)).Within store set := by
  obtain ⟨filter, joint⟩ := term
  cases filter with
  | none => exact ClientSet.within_empty store set
  | some f =>
      simp only [Term.select]
      cases hreduce : f.reduce store (set.duplicate store) with
      | none => exact ClientSet.within_empty store set
      | some other =>
          intro c hc
          exact ClientSet.within_duplicate store set c (f.within_reduce hreduce c hc)

namespace TestChain

variable {store : ClientStore} {set : ClientSet}

theorem combine_within {op : ClientSet → ClientSet → ClientSet} {sets : List ClientSet}
    (hop : ∀ a b, a.Within store set → b.Within store set → (op a b).Within store set)
    (h : ∀ a ∈ sets, a.Within store set) : (combine op sets).Within store set := by
  cases sets with
  | nil => exact ClientSet.within_empty store set
  | cons a sets =>
      obtain ⟨ha, hsets⟩ := List.forall_mem_cons.1 h
      exact List.foldlRecOn (motive := fun b => b.Within store set) sets op ha
        fun b hb c hc => hop b c hb (hsets c hc)

theorem selectGroup_within (group : List Term) :
    (selectGroup store (some set) group).Within store set := by
  refine combine_within (fun a b => ClientSet.Within.intersection) ?_
  intro a ha
  obtain ⟨term, -, rfl⟩ := List.mem_map.1 ha
  exact term.select_within store set

theorem evaluate_within (chain : TestChain) (store : ClientStore) (set : ClientSet) :
    (chain.evaluate store (some set)).Within store set := by
  refine ClientSet.Within.intersection ?_ (ClientSet.within_duplicate store set)
  refine combine_within (fun a b => ClientSet.Within.union) ?_
  intro a ha
  obtain ⟨group, -, rfl⟩ := List.mem_map.1 ha
  exact selectGroup_within group

end TestChain

/-- What a conditional selects inside of another one is selected by that one as well. -/
theorem conditionalSet_within (test : Option TestChain) (accepted : ActionList)
    (store : ClientStore) (set : ClientSet) (data : ActionData) :
    (conditionalSet test accepted store (some set) data).Within store set := by
  cases test with
  | none => exact ClientSet.within_duplicate store set
  | some chain => exact chain.evaluate_within store set

end WindowActions
