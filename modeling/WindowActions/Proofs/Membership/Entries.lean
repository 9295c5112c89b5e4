import WindowActions.ClientSet.Basic
import WindowActions.Proofs.Client.Live

/-!
# What the entries of a set amount to

The entries of a finite set are references, and only those to live clients count. Everything that a
set answers is said here by its live entries: its clients are the live clients whose references
stand in it, each of them once.
-/

namespace WindowActions

namespace Members

variable {m n : Members} {r e : ClientRef} {rs : List ClientRef} {window : UInt32}

theorem eq_of_entries_eq (h : m.entries = n.entries) : m = n := by
  cases m
  cases n
  congr

/-- Entries are told apart by their windows. -/
theorem eq_of_window_eq (hr : r ∈ m.entries) (he : e ∈ m.entries) (h : r.window = e.window) :
    r = e :=
  List.inj_on_of_nodup_map m.windows_distinct hr he h

theorem find?_eq_some_iff : m.find? window = some r ↔ r ∈ m.entries ∧ r.window = window := by
  constructor
  · intro h
    exact ⟨List.mem_of_find?_eq_some h, by simpa using List.find?_some h⟩
  · rintro ⟨hr, hwindow⟩
    have hsome : (m.find? window).isSome = true :=
      List.find?_isSome.2 ⟨r, hr, beq_iff_eq.2 hwindow⟩
    obtain ⟨e, he⟩ := Option.isSome_iff_exists.1 hsome
    have hfound : e.window = window := by simpa using List.find?_some he
    rw [he, eq_of_window_eq (List.mem_of_find?_eq_some he) hr (hfound.trans hwindow.symm)]

theorem replaced_of_eq (h : e.window = r.window) : replaced r e = r := if_pos h

theorem replaced_of_ne (h : e.window ≠ r.window) : replaced r e = e := if_neg h

/-- A reference that is added takes the place of the entry with its window. -/
theorem mem_insert :
    e ∈ (m.insert r).entries ↔ e = r ∨ e ∈ m.entries ∧ e.window ≠ r.window := by
  by_cases h : r.window ∈ m.entries.map (·.window)
  · rw [insert, dif_pos h, List.mem_map]
    constructor
    · rintro ⟨old, hold, rfl⟩
      by_cases hwindow : old.window = r.window
      · exact Or.inl (replaced_of_eq hwindow)
      · rw [replaced_of_ne hwindow]
        exact Or.inr ⟨hold, hwindow⟩
    · rintro (rfl | ⟨he, hwindow⟩)
      · obtain ⟨old, hold, hwindow⟩ := List.mem_map.1 h
        exact ⟨old, hold, replaced_of_eq hwindow⟩
      · exact ⟨e, he, replaced_of_ne hwindow⟩
  · rw [insert, dif_neg h, List.mem_append, List.mem_singleton, or_comm]
    refine or_congr_right (iff_self_and.2 ?_)
    intro he hwindow
    exact h (hwindow ▸ List.mem_map_of_mem he)

theorem insertAll_cons (m : Members) (r : ClientRef) (rs : List ClientRef) :
    m.insertAll (r :: rs) = (m.insert r).insertAll rs := rfl

theorem mem_of_mem_insertAll (h : r ∈ (m.insertAll rs).entries) : r ∈ m.entries ∨ r ∈ rs := by
  induction rs generalizing m with
  | nil => exact Or.inl h
  | cons s rs ih =>
      rcases ih h with hr | hr
      · rcases mem_insert.1 hr with rfl | ⟨hr, -⟩
        · exact Or.inr List.mem_cons_self
        · exact Or.inl hr
      · exact Or.inr (List.mem_cons_of_mem _ hr)

theorem mem_filter {p : ClientRef → Bool} :
    e ∈ (m.filter p).entries ↔ e ∈ m.entries ∧ p e = true := List.mem_filter

end Members

namespace ClientSet

variable {store : ClientStore} {m : Members} {c : Client} {window : UInt32}

theorem mem_clients_some :
    c ∈ (ClientSet.some m).clients store ↔ c ∈ store.live ∧ c.ref ∈ m.entries := by
  rw [clients, List.mem_filterMap]
  constructor
  · rintro ⟨r, hr, hlookup⟩
    obtain ⟨hc, href⟩ := ClientStore.lookup_eq_some_iff.1 hlookup
    exact ⟨hc, href ▸ hr⟩
  · rintro ⟨hc, href⟩
    exact ⟨c.ref, href, ClientStore.lookup_eq_some_iff.2 ⟨hc, rfl⟩⟩

theorem mem_live_of_mem_clients {set : ClientSet} (h : c ∈ set.clients store) :
    c ∈ store.live := by
  cases set with
  | all => exact (List.mem_filter.1 h).1
  | some m => exact (mem_clients_some.1 h).1

theorem mem_managed_of_mem_clients {set : ClientSet}
    (h : ∀ c ∈ set.clients store, c.managed = true) (hc : c ∈ set.clients store) :
    c ∈ store.managed :=
  List.mem_filter.2 ⟨mem_live_of_mem_clients hc, h c hc⟩

theorem refs_clients_some (store : ClientStore) (m : Members) :
    ((ClientSet.some m).clients store).map (·.ref) = m.entries.filter store.isLive := by
  rw [clients, List.map_filterMap, ← List.filterMap_eq_filter]
  refine List.filterMap_congr ?_
  intro r hr
  cases hlookup : store.lookup r with
  | none =>
      have hdead : store.isLive r = false := by rw [← ClientStore.lookup_isSome, hlookup]; rfl
      simp [Option.guard, hdead]
  | some c =>
      obtain ⟨hc, href⟩ := ClientStore.lookup_eq_some_iff.1 hlookup
      have hlive : store.isLive r = true := ClientStore.isLive_iff.2 ⟨c, hc, href⟩
      simp [Option.guard, hlive, href]

/-- Which clients a set has does not depend on their states. -/
theorem clients_mapLive (store : ClientStore) (f : Client → ClientState) (set : ClientSet) :
    set.clients (store.mapLive f) = (set.clients store).map (ClientStore.restated f) := by
  cases set with
  | all => exact ClientStore.managed_mapLive store f
  | some m =>
      rw [clients, clients, List.map_filterMap]
      exact List.filterMap_congr fun r _ => ClientStore.lookup_mapLive store f r

theorem nodup_clients (store : ClientStore) (set : ClientSet) : (set.clients store).Nodup := by
  cases set with
  | all => exact store.windows_distinct.of_map _
  | some m =>
      have hentries : m.entries.Nodup := m.windows_distinct.of_map _
      refine List.Nodup.of_map (·.ref) ?_
      rw [refs_clients_some]
      exact hentries.filter _

theorem size_some (store : ClientStore) (m : Members) :
    (ClientSet.some m).size store = Option.some ((ClientSet.some m).clients store).length := by
  rw [size, ← List.length_map (f := (·.ref)), refs_clients_some, List.countP_eq_length_filter]

theorem isTrue_some_iff :
    (ClientSet.some m).isTrue store = true ↔ ∃ c ∈ store.live, c.ref ∈ m.entries := by
  have hpos : 0 < ((ClientSet.some m).clients store).length ↔
      ∃ c, c ∈ (ClientSet.some m).clients store := List.length_pos_iff_exists_mem
  simp only [mem_clients_some] at hpos
  rw [← hpos, isTrue, size_some, Nat.pos_iff_ne_zero]
  exact bne_iff_ne

theorem clients_eq_nil {set : ClientSet} (h : set.isTrue store = false) :
    set.clients store = [] := by
  cases set with
  | all => cases h
  | some m =>
      rw [← Bool.not_eq_true, isTrue_some_iff] at h
      refine List.eq_nil_iff_forall_not_mem.2 fun c hc => ?_
      exact h ⟨c, mem_clients_some.1 hc⟩

theorem contains_some_iff :
    (ClientSet.some m).contains store window = true ↔
      ∃ c ∈ store.live, c.ref ∈ m.entries ∧ c.window = window := by
  rw [contains, Option.any_eq_true]
  constructor
  · rintro ⟨r, hr, hlive⟩
    obtain ⟨hentry, hwindow⟩ := Members.find?_eq_some_iff.1 hr
    obtain ⟨c, hc, rfl⟩ := ClientStore.isLive_iff.1 hlive
    exact ⟨c, hc, hentry, hwindow⟩
  · rintro ⟨c, hc, hentry, hwindow⟩
    exact ⟨c.ref, Members.find?_eq_some_iff.2 ⟨hentry, hwindow⟩,
      ClientStore.isLive_iff.2 ⟨c, hc, rfl⟩⟩

end ClientSet

end WindowActions
