import Mathlib.Order.BooleanAlgebra.Basic
import WindowActions.Proofs.Membership.Entries

/-!
# The lattice of contents

What a set contains is told by asking it for windows, and whether it is the set of all clients has
to be asked for itself. Both answers together are the contents of a set. They form a distributive
lattice, and however many entries of clients that are gone stand in two sets, a union has the
supremum of their contents and an intersection the infimum. So all laws of such a lattice hold of
the contents of sets.
-/

namespace WindowActions

namespace Members

theorem find?_insert (m : Members) (r : ClientRef) (window : UInt32) :
    (m.insert r).find? window = if r.window = window then some r else m.find? window := by
  refine Option.ext fun e => ?_
  rw [find?_eq_some_iff, mem_insert]
  split
  case isTrue hwindow =>
      rw [Option.some.injEq]
      constructor
      · rintro ⟨rfl | ⟨-, hne⟩, he⟩
        · rfl
        · exact absurd (he.trans hwindow.symm) hne
      · rintro rfl
        exact ⟨.inl rfl, hwindow⟩
  case isFalse hwindow =>
      rw [find?_eq_some_iff]
      constructor
      · rintro ⟨rfl | ⟨he, -⟩, heq⟩
        · exact absurd heq hwindow
        · exact ⟨he, heq⟩
      · rintro ⟨he, heq⟩
        exact ⟨.inr ⟨he, fun hne => hwindow (hne.symm.trans heq)⟩, heq⟩

theorem find?_filter (m : Members) (p : ClientRef → Bool) (window : UInt32) :
    (m.filter p).find? window = (m.find? window).filter p := by
  refine Option.ext fun e => ?_
  rw [find?_eq_some_iff, mem_filter, Option.filter_eq_some_iff, find?_eq_some_iff, and_right_comm]

end Members

namespace ClientSet

variable {store : ClientStore} {m : Members} {rs : List ClientRef} {window : UInt32}

/-- Whether the set is that of all clients, and which windows it contains. -/
def contents (store : ClientStore) (set : ClientSet) : Bool × (UInt32 → Bool) :=
  (set.isUniversal, set.contains store)

/-- References to live clients are contained behind those that are contained already. -/
theorem contains_insertAll (h : ∀ r ∈ rs, store.isLive r = true) (m : Members) (window : UInt32) :
    (ClientSet.some (m.insertAll rs)).contains store window =
      ((ClientSet.some m).contains store window || rs.any (·.window == window)) := by
  induction rs generalizing m with
  | nil => exact (Bool.or_false _).symm
  | cons r rs ih =>
      obtain ⟨hr, hrest⟩ := List.forall_mem_cons.1 h
      have hinsert : (ClientSet.some (m.insert r)).contains store window =
          ((ClientSet.some m).contains store window || r.window == window) := by
        rw [contains, contains, Members.find?_insert]
        by_cases hwindow : r.window = window
        · rw [if_pos hwindow, beq_iff_eq.2 hwindow, Bool.or_true]
          exact hr
        · rw [if_neg hwindow, beq_eq_false_iff_ne.2 hwindow, Bool.or_false]
      rw [Members.insertAll_cons, ih hrest, hinsert, Bool.or_assoc]
      rfl

theorem any_live_window (store : ClientStore) (m : Members) (window : UInt32) :
    (m.entries.filter store.isLive).any (·.window == window) =
      (ClientSet.some m).contains store window := by
  rw [Bool.eq_iff_iff, List.any_eq_true, contains, Option.any_eq_true]
  refine exists_congr fun r => ?_
  rw [List.mem_filter, beq_iff_eq, Members.find?_eq_some_iff, and_right_comm]

theorem contains_union (store : ClientStore) (a b : ClientSet) (window : UInt32) :
    (a.union store b).contains store window =
      (a.contains store window || b.contains store window) := by
  cases b with
  | all => cases a <;> exact (Bool.or_true _).symm
  | some n =>
      cases a with
      | all => rfl
      | some m =>
          rw [union, contains_insertAll (fun r hr => (List.mem_filter.1 hr).2), any_live_window]

theorem contains_intersection (store : ClientStore) (a b : ClientSet) (window : UInt32) :
    (a.intersection store b).contains store window =
      (a.contains store window && b.contains store window) := by
  cases a with
  | all => rfl
  | some m =>
      cases b with
      | all => exact (Bool.and_true _).symm
      | some n =>
          rw [intersection, contains, contains, Members.find?_filter]
          cases hfind : m.find? window with
          | none => rfl
          | some r =>
              obtain ⟨-, rfl⟩ := Members.find?_eq_some_iff.1 hfind
              rw [Option.any_some, Option.filter_some]
              cases hlive : store.isLive r with
              | false => rfl
              | true =>
                  cases (ClientSet.some n).contains store r.window with
                  | false => rfl
                  | true => exact hlive

theorem isUniversal_union (store : ClientStore) (a b : ClientSet) :
    (a.union store b).isUniversal = (a.isUniversal || b.isUniversal) := by
  cases a <;> cases b <;> rfl

theorem isUniversal_intersection (store : ClientStore) (a b : ClientSet) :
    (a.intersection store b).isUniversal = (a.isUniversal && b.isUniversal) := by
  cases a <;> cases b <;> rfl

theorem contents_union (store : ClientStore) (a b : ClientSet) :
    (a.union store b).contents store = a.contents store ⊔ b.contents store :=
  Prod.ext (isUniversal_union store a b) (funext (contains_union store a b))

theorem contents_intersection (store : ClientStore) (a b : ClientSet) :
    (a.intersection store b).contents store = a.contents store ⊓ b.contents store :=
  Prod.ext (isUniversal_intersection store a b) (funext (contains_intersection store a b))

theorem contents_empty (store : ClientStore) : empty.contents store = ⊥ := rfl

theorem contents_all (store : ClientStore) : all.contents store = ⊤ := rfl

theorem isTrue_eq_true_iff (store : ClientStore) (set : ClientSet) :
    set.isTrue store = true ↔ ∃ window, set.contains store window = true := by
  cases set with
  | all => exact iff_of_true rfl ⟨0, rfl⟩
  | some m =>
      rw [isTrue_some_iff]
      simp only [contains_some_iff]
      constructor
      · rintro ⟨c, hc, href⟩
        exact ⟨c.window, c, hc, href, rfl⟩
      · rintro ⟨window, c, hc, href, -⟩
        exact ⟨c, hc, href⟩

theorem isTrue_union (store : ClientStore) (a b : ClientSet) :
    (a.union store b).isTrue store = (a.isTrue store || b.isTrue store) := by
  rw [Bool.eq_iff_iff, Bool.or_eq_true]
  simp only [isTrue_eq_true_iff, contains_union, Bool.or_eq_true, exists_or]

theorem windows_nodup (store : ClientStore) (m : Members) :
    (((ClientSet.some m).clients store).map (·.window)).Nodup := by
  have hrefs := congrArg (List.map ClientRef.window) (refs_clients_some store m)
  rw [List.map_map] at hrefs
  exact hrefs ▸ m.windows_distinct.sublist (List.filter_sublist.map _)

theorem mem_windows_some :
    window ∈ ((ClientSet.some m).clients store).map (·.window) ↔
      (ClientSet.some m).contains store window = true := by
  simp only [List.mem_map, mem_clients_some, contains_some_iff, and_assoc]

/-- Contents are the same if the windows of the clients are, whatever their order is. -/
theorem contents_eq_iff (store : ClientStore) (a b : ClientSet) :
    a.contents store = b.contents store ↔ a.isUniversal = b.isUniversal ∧
      ((a.clients store).map (·.window)).Perm ((b.clients store).map (·.window)) := by
  cases a with
  | all =>
      cases b with
      | all => exact iff_of_true rfl ⟨rfl, .refl _⟩
      | some n => exact iff_of_false (fun h => nomatch congrArg Prod.fst h) fun h => nomatch h.1
  | some m =>
      cases b with
      | all => exact iff_of_false (fun h => nomatch congrArg Prod.fst h) fun h => nomatch h.1
      | some n =>
          rw [List.perm_ext_iff_of_nodup (windows_nodup store m) (windows_nodup store n)]
          simp only [mem_windows_some]
          constructor
          · intro h
            exact ⟨rfl, fun window => Bool.eq_iff_iff.1 (congrFun (congrArg Prod.snd h) window)⟩
          · rintro ⟨-, h⟩
            exact Prod.ext rfl (funext fun window => Bool.eq_iff_iff.2 (h window))

/-- A set that is made of others contains a window if they do. So the contents of sets form a
distributive lattice, with nothing at the bottom and the set of all clients at the top. -/
theorem contents_lattice (store : ClientStore) :
    (∀ (a b : ClientSet) (window : UInt32),
      (a.union store b).contains store window =
        (a.contains store window || b.contains store window) ∧
      (a.intersection store b).contains store window =
        (a.contains store window && b.contains store window)) ∧
    (∀ a b : ClientSet,
      (a.union store b).isUniversal = (a.isUniversal || b.isUniversal) ∧
      (a.intersection store b).isUniversal = (a.isUniversal && b.isUniversal) ∧
      (a.union store b).isTrue store = (a.isTrue store || b.isTrue store)) ∧
    (∀ a b : ClientSet, a.contents store = b.contents store ↔ a.isUniversal = b.isUniversal ∧
      ((a.clients store).map (·.window)).Perm ((b.clients store).map (·.window))) ∧
    ∀ a b c : ClientSet,
      let same : ClientSet → ClientSet → Prop := fun s t => s.contents store = t.contents store
      let cup := ClientSet.union store
      let cap := ClientSet.intersection store
      (same (cup a b) (cup b a) ∧ same (cap a b) (cap b a)) ∧
      (same (cup (cup a b) c) (cup a (cup b c)) ∧ same (cap (cap a b) c) (cap a (cap b c))) ∧
      (same (cup a a) a ∧ same (cap a a) a) ∧
      (same (cup a (cap a b)) a ∧ same (cap a (cup a b)) a) ∧
      (same (cap a (cup b c)) (cup (cap a b) (cap a c)) ∧
        same (cup a (cap b c)) (cap (cup a b) (cup a c))) ∧
      (same (cup a .empty) a ∧ same (cap a .empty) .empty) ∧
      (same (cup a .all) .all ∧ same (cap a .all) a) := by
  refine ⟨fun a b window => ?_, fun a b => ?_, contents_eq_iff store, fun a b c => ?_⟩
  · exact ⟨contains_union store a b window, contains_intersection store a b window⟩
  · exact ⟨isUniversal_union store a b, isUniversal_intersection store a b,
      isTrue_union store a b⟩
  simp only [contents_union, contents_intersection, contents_empty, contents_all]
  exact ⟨⟨sup_comm _ _, inf_comm _ _⟩, ⟨sup_assoc _ _ _, inf_assoc _ _ _⟩, ⟨sup_idem _, inf_idem _⟩,
    ⟨sup_inf_self, inf_sup_self⟩, ⟨inf_sup_left _ _ _, sup_inf_left _ _ _⟩,
    ⟨sup_bot_eq _, inf_bot_eq _⟩, ⟨sup_top_eq _, inf_top_eq _⟩⟩

end ClientSet

end WindowActions
