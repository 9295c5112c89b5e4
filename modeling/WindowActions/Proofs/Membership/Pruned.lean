import WindowActions.Proofs.Membership.Asked

/-!
# Entries of clients that are gone

The entry of a client that is gone stays in a set until the set is copied, so the copy is the set
as it should be. Nothing that is asked of the set and nothing that takes clients out of it can tell
the two apart. Adding clients can, but only in one way: a client that has got the window of a
client that is gone is not added at the end, but takes the place of the old entry.

`ClientSet.clear` says that this cannot happen with a window. As long as the windows of the added
clients are clear, the set shows the same as its copy.
-/

namespace WindowActions

namespace Members

variable {store : ClientStore} {m n : Members} {r e : ClientRef} {rs : List ClientRef}

theorem filter_filter (m : Members) (p q : ClientRef → Bool) :
    (m.filter p).filter q = m.filter fun r => q r && p r :=
  eq_of_entries_eq (by simp [filter, List.filter_filter, Bool.and_comm])

/-- The entries that pass a test are not changed by leaving out others before. -/
theorem filter_filter_of_imp {m : Members} {p q : ClientRef → Bool}
    (h : ∀ r, q r = true → p r = true) :
    (m.filter p).filter q = m.filter q := by
  rw [filter_filter]
  refine congrArg m.filter (funext fun r => ?_)
  cases hq : q r with
  | false => rfl
  | true => rw [h r hq, Bool.and_self]

/-- Whether the entry with a window, if there is one, is of a live client. -/
def clear (store : ClientStore) (m : Members) (window : UInt32) : Bool :=
  (m.find? window).all store.isLive

theorem clear_window (h : e ∈ m.entries) : m.clear store e.window = store.isLive e := by
  rw [clear, find?_eq_some_iff.2 ⟨h, rfl⟩]
  rfl

theorem filter_isLive_eq (store : ClientStore) (m : Members) :
    m.filter store.isLive = m.filter fun e => m.clear store e.window :=
  eq_of_entries_eq (List.filter_congr fun _ he => (clear_window he).symm)

/-- Which windows are left out makes no difference to a reference with another one. -/
theorem filter_insert (m : Members) (keep : UInt32 → Bool) (h : keep r.window = true) :
    (m.insert r).filter (fun e => keep e.window) =
      (m.filter fun e => keep e.window).insert r := by
  have hiff : r.window ∈ ((m.filter fun e => keep e.window).entries.map (·.window)) ↔
      r.window ∈ m.entries.map (·.window) := by
    simp only [List.mem_map, mem_filter]
    constructor
    · rintro ⟨e, ⟨he, -⟩, hwindow⟩
      exact ⟨e, he, hwindow⟩
    · rintro ⟨e, he, hwindow⟩
      exact ⟨e, ⟨he, hwindow ▸ h⟩, hwindow⟩
  refine eq_of_entries_eq ?_
  by_cases hmem : r.window ∈ m.entries.map (·.window)
  · rw [insert, dif_pos hmem, insert, dif_pos (hiff.2 hmem)]
    simp [filter, List.filter_map, Function.comp_def, window_replaced]
  · rw [insert, dif_neg hmem, insert, dif_neg (mt hiff.1 hmem)]
    simp [filter, h]

theorem filter_insertAll (m : Members) (keep : UInt32 → Bool)
    (h : ∀ r ∈ rs, keep r.window = true) :
    (m.insertAll rs).filter (fun e => keep e.window) =
      (m.filter fun e => keep e.window).insertAll rs := by
  induction rs generalizing m with
  | nil => rfl
  | cons r rs ih =>
      obtain ⟨hr, hrest⟩ := List.forall_mem_cons.1 h
      rw [insertAll_cons, ih _ hrest, filter_insert m keep hr, insertAll_cons]

/-- Which live clients are entered afterwards depends on those that are entered before. -/
theorem mem_insertAll_congr (h : ∀ e, store.isLive e = true → (e ∈ m.entries ↔ e ∈ n.entries))
    (he : store.isLive e = true) :
    e ∈ (m.insertAll rs).entries ↔ e ∈ (n.insertAll rs).entries := by
  induction rs generalizing m n with
  | nil => exact h e he
  | cons r rs ih =>
      refine ih ?_
      intro d hd
      rw [mem_insert, mem_insert, h d hd]

/-- The entries around one have other windows. -/
theorem window_ne_of_entries_eq {before after : List ClientRef}
    (h : m.entries = before ++ e :: after) :
    (∀ d ∈ before, d.window ≠ e.window) ∧ ∀ d ∈ after, d.window ≠ e.window := by
  have hdistinct := m.windows_distinct
  rw [h, List.map_append, List.map_cons, List.nodup_middle, List.nodup_cons, List.mem_append]
    at hdistinct
  constructor
  · intro d hd heq
    exact hdistinct.1 (Or.inl (heq ▸ List.mem_map_of_mem hd))
  · intro d hd heq
    exact hdistinct.1 (Or.inr (heq ▸ List.mem_map_of_mem hd))

theorem map_replaced_of_ne {es : List ClientRef} (h : ∀ e ∈ es, e.window ≠ r.window) :
    es.map (replaced r) = es := by
  rw [List.map_congr_left fun e he => replaced_of_ne (h e he), List.map_id']

/-- A reference takes the place of the entry with its window. -/
theorem entries_insert_of_entries_eq {before after : List ClientRef}
    (h : m.entries = before ++ e :: after) (hwindow : e.window = r.window) :
    (m.insert r).entries = before ++ r :: after := by
  have hmem : r.window ∈ m.entries.map (·.window) := by
    rw [h]
    exact List.mem_map.2 ⟨e, List.mem_append_right _ List.mem_cons_self, hwindow⟩
  obtain ⟨hbefore, hafter⟩ := window_ne_of_entries_eq h
  rw [hwindow] at hbefore hafter
  rw [insert, dif_pos hmem]
  simp only [h, List.map_append, List.map_cons]
  rw [map_replaced_of_ne hbefore, map_replaced_of_ne hafter, replaced_of_eq hwindow]

/-- What an entry of a client that is gone does to a client with its window: the client comes to
stand where the entry does, and in the copy at the end. -/
theorem insert_gone (h : m.clear store r.window = false) :
    ∃ before gone after, m.entries = before ++ gone :: after ∧ store.isLive gone = false ∧
      (m.insert r).entries = before ++ r :: after ∧
      ((m.filter store.isLive).insert r).entries =
        before.filter store.isLive ++ after.filter store.isLive ++ [r] := by
  obtain ⟨gone, hfind, hgone⟩ := (Option.all_eq_false _ _).1 h
  obtain ⟨hmem, hwindow⟩ := find?_eq_some_iff.1 hfind
  have hdead : store.isLive gone = false := by simpa using hgone
  obtain ⟨before, after, hentries⟩ := List.append_of_mem hmem
  have hfree : r.window ∉ (m.filter store.isLive).entries.map (·.window) := by
    intro hin
    obtain ⟨e, he, heq⟩ := List.mem_map.1 hin
    obtain ⟨he, hlive⟩ := mem_filter.1 he
    rw [eq_of_window_eq he hmem (heq.trans hwindow.symm), hdead] at hlive
    cases hlive
  refine ⟨before, gone, after, hentries, hdead, entries_insert_of_entries_eq hentries hwindow, ?_⟩
  rw [insert, dif_neg hfree]
  simp only [filter, hentries, List.filter_append, List.filter_cons]
  simp [hdead]

end Members

namespace ClientSet

variable {store : ClientStore} {set other : ClientSet} {m n : Members}

/-- Both sets or neither are the set of all clients, and they have the same clients. -/
def HasSame (store : ClientStore) (set other : ClientSet) : Prop :=
  set.isUniversal = other.isUniversal ∧ (set.clients store).Perm (other.clients store)

/-- Both sets or neither are the set of all clients, and they have the same clients in the same
order. -/
def ShowsSame (store : ClientStore) (set other : ClientSet) : Prop :=
  set.isUniversal = other.isUniversal ∧ set.clients store = other.clients store

instance (store : ClientStore) (set other : ClientSet) : Decidable (set.ShowsSame store other) :=
  inferInstanceAs (Decidable (_ ∧ _))

/-- Whether a client with this window is added to the set as if there were no entries of clients
that are gone. -/
def clear (store : ClientStore) (window : UInt32) : ClientSet → Bool
  | .all => true
  | .some m => m.clear store window

theorem HasSame.refl (store : ClientStore) (set : ClientSet) : set.HasSame store set :=
  ⟨rfl, List.Perm.refl _⟩

theorem ShowsSame.of_eq (h : set = other) : set.ShowsSame store other := h ▸ ⟨rfl, rfl⟩

theorem filterMap_lookup_filter {p : ClientRef → Bool} {rs : List ClientRef}
    (h : ∀ r ∈ rs, store.isLive r = true → p r = true) :
    (rs.filter p).filterMap store.lookup = rs.filterMap store.lookup := by
  rw [List.filterMap_filter]
  refine List.filterMap_congr ?_
  intro r hr
  by_cases hp : p r = true
  · rw [if_pos hp]
  · have hdead : ¬ (store.lookup r).isSome = true := by
      rw [ClientStore.lookup_isSome]
      exact mt (h r hr) hp
    rw [if_neg hp, Option.not_isSome_iff_eq_none.1 hdead]

/-- Leaving out entries of clients that are gone leaves the clients as they are. -/
theorem clients_filter {p : ClientRef → Bool}
    (h : ∀ r ∈ m.entries, store.isLive r = true → p r = true) :
    (ClientSet.some (m.filter p)).clients store = (ClientSet.some m).clients store :=
  filterMap_lookup_filter h

theorem showsSame_duplicate (store : ClientStore) (set : ClientSet) :
    set.ShowsSame store (set.duplicate store) := by
  cases set with
  | all => exact .of_eq rfl
  | some m => exact ⟨rfl, (clients_filter fun r hr hlive => hlive).symm⟩

theorem duplicate_duplicate (store : ClientStore) (set : ClientSet) :
    (set.duplicate store).duplicate store = set.duplicate store := by
  cases set with
  | all => rfl
  | some m => exact congrArg ClientSet.some (Members.filter_filter_of_imp fun r hr => hr)

theorem contains_duplicate (store : ClientStore) (set : ClientSet) (window : UInt32) :
    (set.duplicate store).contains store window = set.contains store window := by
  cases set with
  | all => rfl
  | some m =>
      rw [Bool.eq_iff_iff, duplicate, contains_some_iff, contains_some_iff]
      refine exists_congr fun c => and_congr_right fun hc => and_congr_left' ?_
      rw [Members.mem_filter]
      exact and_iff_left (ClientStore.isLive_iff.2 ⟨c, hc, rfl⟩)

theorem size_duplicate (store : ClientStore) (set : ClientSet) :
    (set.duplicate store).size store = set.size store := by
  cases set with
  | all => rfl
  | some m =>
      rw [duplicate, size_some, size_some, clients_filter fun r hr hlive => hlive]

theorem missing_duplicate (store : ClientStore) (set : ClientSet) :
    (set.duplicate store).missing store = set.missing store := by
  simp only [missing, contains_duplicate]

theorem reduce_duplicate (store : ClientStore) (p : Client → Bool) (set : ClientSet) :
    (set.duplicate store).reduce store p = set.reduce store p := by
  cases set with
  | all => rfl
  | some m =>
      have himp : ∀ r, (store.lookup r).any p = true → store.isLive r = true := by
        intro r hr
        rw [← ClientStore.lookup_isSome]
        exact Option.isSome_of_any hr
      have hmembers := Members.filter_filter_of_imp (m := m) himp
      simp only [reduce, duplicate, hmembers]

theorem reduceAsking_duplicate (store : ClientStore) (p : Client → Bool) (set : ClientSet) :
    (set.duplicate store).reduceAsking store p = set.reduceAsking store p := by
  rw [reduceAsking_eq, reduceAsking_eq, reduce_duplicate, (showsSame_duplicate store set).2]

theorem asked_expand_duplicate (store : ClientStore) (p : Client → Bool) (set : ClientSet) :
    (expandAsking store p (Option.some (set.duplicate store))).2 =
      (expandAsking store p (Option.some set)).2 := by
  rw [expandAsking_eq, expandAsking_eq]
  exact missing_duplicate store set

theorem intersection_duplicate_left (store : ClientStore) (set other : ClientSet) :
    (set.intersection store other).ShowsSame store
      ((set.duplicate store).intersection store other) := by
  cases set with
  | all => exact .of_eq rfl
  | some m =>
      cases other with
      | all => exact showsSame_duplicate store (.some m)
      | some n =>
          refine .of_eq (congrArg ClientSet.some (Members.filter_filter_of_imp ?_).symm)
          intro r hr
          exact (Bool.and_eq_true_iff.1 hr).1

theorem intersection_duplicate_right (store : ClientStore) (set other : ClientSet) :
    (other.intersection store set).ShowsSame store
      (other.intersection store (set.duplicate store)) := by
  cases other with
  | all => exact showsSame_duplicate store set
  | some n =>
      cases set with
      | all => exact .of_eq rfl
      | some m =>
          have hcontains := contains_duplicate store (.some m)
          simp only [duplicate] at hcontains
          refine .of_eq ?_
          simp only [intersection, duplicate, hcontains]

theorem union_duplicate_right (store : ClientStore) (set other : ClientSet) :
    other.union store (set.duplicate store) = other.union store set := by
  cases set with
  | all => rfl
  | some m =>
      have hentries : (m.filter store.isLive).entries.filter store.isLive =
          m.entries.filter store.isLive := by
        rw [Members.filter, List.filter_filter]
        simp
      cases other with
      | all => rfl
      | some n =>
          simp only [union, duplicate, hentries]

theorem hasSame_insertAll (store : ClientStore) (m : Members) (rs : List ClientRef) :
    (ClientSet.some (m.insertAll rs)).HasSame store
      (.some ((m.filter store.isLive).insertAll rs)) := by
  refine ⟨rfl, (List.perm_ext_iff_of_nodup (nodup_clients _ _) (nodup_clients _ _)).2 ?_⟩
  intro c
  rw [mem_clients_some, mem_clients_some]
  refine and_congr_right fun hc => ?_
  refine Members.mem_insertAll_congr ?_ (ClientStore.isLive_iff.2 ⟨c, hc, rfl⟩)
  intro e he
  rw [Members.mem_filter]
  exact (and_iff_left he).symm

theorem showsSame_insertAll {rs : List ClientRef} (h : ∀ r ∈ rs, m.clear store r.window = true) :
    (ClientSet.some (m.insertAll rs)).ShowsSame store
      (.some ((m.filter store.isLive).insertAll rs)) := by
  refine ⟨rfl, ?_⟩
  rw [Members.filter_isLive_eq, ← Members.filter_insertAll m (m.clear store) h]
  refine (clients_filter ?_).symm
  intro r hr hlive
  rcases Members.mem_of_mem_insertAll hr with hr | hr
  · rw [Members.clear_window hr]
    exact hlive
  · exact h r hr

/-- The clients of a set to which a client with the window of one that is gone is added, and those
of its copy. -/
theorem clients_insert_gone {c : Client} (hc : c ∈ store.live)
    (h : set.clear store c.window = false) :
    ∃ before after, set.clients store = before ++ after ∧
      (set.insert c.ref).clients store = before ++ c :: after ∧
      ((set.duplicate store).insert c.ref).clients store = before ++ after ++ [c] := by
  cases set with
  | all => cases h
  | some m =>
      obtain ⟨before, gone, after, hentries, hgone, hinsert, hcopy⟩ := Members.insert_gone h
      have hlookup : store.lookup c.ref = Option.some c :=
        ClientStore.lookup_eq_some_iff.2 ⟨hc, rfl⟩
      have hnone : store.lookup gone = none := by
        rw [← Option.not_isSome_iff_eq_none, ClientStore.lookup_isSome, hgone]
        exact Bool.false_ne_true
      have hlive : ∀ es : List ClientRef,
          (es.filter store.isLive).filterMap store.lookup = es.filterMap store.lookup :=
        fun es => filterMap_lookup_filter fun r hr hlive => hlive
      refine ⟨before.filterMap store.lookup, after.filterMap store.lookup, ?_, ?_, ?_⟩
      · rw [clients, hentries, List.filterMap_append, List.filterMap_cons_none hnone]
      · rw [insert, clients, hinsert, List.filterMap_append, List.filterMap_cons_some hlookup]
      · rw [duplicate, insert, clients, hcopy, List.filterMap_append, List.filterMap_append, hlive,
          hlive, List.filterMap_cons_some hlookup, List.filterMap_nil]

theorem union_duplicate_left (store : ClientStore) (set other : ClientSet) :
    (set.union store other).HasSame store ((set.duplicate store).union store other) ∧
    ((∀ c ∈ other.clients store, set.clear store c.window = true) →
      (set.union store other).ShowsSame store ((set.duplicate store).union store other)) := by
  cases other with
  | all => cases set <;> exact ⟨.refl _ _, fun _ => .of_eq rfl⟩
  | some n =>
      cases set with
      | all => exact ⟨.refl _ _, fun _ => .of_eq rfl⟩
      | some m =>
          refine ⟨hasSame_insertAll store m _, fun hclear => showsSame_insertAll ?_⟩
          intro r hr
          rw [← refs_clients_some, List.mem_map] at hr
          obtain ⟨c, hc, rfl⟩ := hr
          exact hclear c hc

theorem expand_duplicate (store : ClientStore) (p : Client → Bool) (set : ClientSet) :
    (expand store p (Option.some set)).HasSame store
      (expand store p (Option.some (set.duplicate store))) ∧
    ((∀ c ∈ set.missing store, p c = true → set.clear store c.window = true) →
      (expand store p (Option.some set)).ShowsSame store
        (expand store p (Option.some (set.duplicate store)))) := by
  cases set with
  | all => exact ⟨.refl _ _, fun _ => .of_eq rfl⟩
  | some m =>
      have hmissing := missing_duplicate store (.some m)
      simp only [duplicate] at hmissing
      simp only [expand, duplicate, Option.getD_some, hmissing]
      refine ⟨hasSame_insertAll store m _, fun hclear => showsSame_insertAll ?_⟩
      intro r hr
      obtain ⟨c, hc, rfl⟩ := List.mem_map.1 hr
      obtain ⟨hc, hp⟩ := List.mem_filter.1 hc
      exact hclear c hc hp

theorem insert_duplicate (store : ClientStore) (set : ClientSet) (r : ClientRef) :
    (set.insert r).HasSame store ((set.duplicate store).insert r) ∧
    (set.clear store r.window = true →
      (set.insert r).ShowsSame store ((set.duplicate store).insert r)) := by
  cases set with
  | all => exact ⟨.refl _ _, fun _ => .of_eq rfl⟩
  | some m =>
      refine ⟨hasSame_insertAll store m [r], fun hclear => ?_⟩
      exact showsSame_insertAll (List.forall_mem_singleton.2 hclear)

/-- A set that still has entries of clients that are gone behaves as its copy that has none, but
for the order in which it has clients that are added with a window of such an entry: these stand in
the place of the entry. The tests that take clients out and that add them are asked about the same
clients in the same order. -/
theorem duplicate_agrees (store : ClientStore) (set : ClientSet) :
    let pruned := set.duplicate store
    set.ShowsSame store pruned ∧
    (∀ window, set.contains store window = pruned.contains store window) ∧
    set.size store = pruned.size store ∧
    set.isTrue store = pruned.isTrue store ∧
    set.missing store = pruned.missing store ∧
    set.duplicate store = pruned.duplicate store ∧
    (∀ p, set.reduce store p = pruned.reduce store p) ∧
    (∀ p, set.reduceAsking store p = pruned.reduceAsking store p) ∧
    (∀ other : ClientSet,
      (set.intersection store other).ShowsSame store (pruned.intersection store other)) ∧
    (∀ other : ClientSet,
      (other.intersection store set).ShowsSame store (other.intersection store pruned)) ∧
    (∀ other : ClientSet, other.union store set = other.union store pruned) ∧
    (∀ other : ClientSet, (set.union store other).HasSame store (pruned.union store other) ∧
      ((∀ c ∈ other.clients store, set.clear store c.window = true) →
        (set.union store other).ShowsSame store (pruned.union store other))) ∧
    (∀ p, (expand store p (Option.some set)).HasSame store (expand store p (Option.some pruned)) ∧
      ((∀ c ∈ set.missing store, p c = true → set.clear store c.window = true) →
        (expand store p (Option.some set)).ShowsSame store (expand store p (Option.some pruned)))) ∧
    (∀ p, (expandAsking store p (Option.some set)).2 =
      (expandAsking store p (Option.some pruned)).2) ∧
    (∀ c ∈ store.live, (set.insert c.ref).HasSame store (pruned.insert c.ref) ∧
      (set.clear store c.window = true →
        (set.insert c.ref).ShowsSame store (pruned.insert c.ref)) ∧
      (set.clear store c.window = false →
        ∃ before after, set.clients store = before ++ after ∧
          (set.insert c.ref).clients store = before ++ c :: after ∧
          (pruned.insert c.ref).clients store = before ++ after ++ [c])) := by
  intro pruned
  refine ⟨showsSame_duplicate store set, fun window => (contains_duplicate store set window).symm,
    (size_duplicate store set).symm, ?_, (missing_duplicate store set).symm,
    (duplicate_duplicate store set).symm, fun p => (reduce_duplicate store p set).symm,
    fun p => (reduceAsking_duplicate store p set).symm, intersection_duplicate_left store set,
    intersection_duplicate_right store set,
    fun other => (union_duplicate_right store set other).symm, union_duplicate_left store set,
    fun p => expand_duplicate store p set, fun p => (asked_expand_duplicate store p set).symm, ?_⟩
  · rw [isTrue, isTrue, size_duplicate]
  · intro c hc
    obtain ⟨hhas, hshows⟩ := insert_duplicate store set c.ref
    exact ⟨hhas, hshows, clients_insert_gone hc⟩

/-- The store of two clients after the first one has gone and its window has got another one. -/
def remanagedStore : ClientStore :=
  ((ClientStore.ofSpecs [⟨1, {}⟩, ⟨2, {}⟩]).unmanage 1 |>.manage 1 {}).2

/-- Of the set of the two clients, the copy has the new client at the end. -/
theorem insert_order_differs :
    ¬ ∀ (store : ClientStore) (set : ClientSet) (c : Client), c ∈ store.live →
      (set.insert c.ref).ShowsSame store ((set.duplicate store).insert c.ref) := by
  intro h
  have hset := h remanagedStore ((ClientSet.single ⟨0, 1⟩).insert ⟨1, 2⟩) ⟨⟨2, 1⟩, {}, true⟩
    (by decide)
  revert hset
  decide

end ClientSet

end WindowActions
