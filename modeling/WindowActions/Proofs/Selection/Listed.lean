import WindowActions.ClientSet.Basic
import WindowActions.Proofs.Client.Live

/-!
# Finite sets as lists of managed clients

`m.Lists store cs` says that the references of `m` are those of the managed clients `cs`, in the
same order. Then the operations on sets are operations on lists: adding is to append what is not
there yet, and an intersection is a filter. Neither the windows by which members are found nor the
references occur in the results.
-/

namespace WindowActions

theorem eraseDups_of_nodup {α : Type} [BEq α] [LawfulBEq α] {l : List α} (h : l.Nodup) :
    l.eraseDups = l := by
  induction l with
  | nil => rfl
  | cons a l ih =>
      obtain ⟨ha, hl⟩ := List.nodup_cons.1 h
      have hfilter : l.filter (fun b => !b == a) = l := by
        rw [List.filter_eq_self]
        intro b hb
        simpa using ne_of_mem_of_not_mem hb ha
      rw [List.eraseDups_cons, hfilter, ih hl]

theorem eraseDups_append_cons_of_mem {α : Type} [BEq α] [LawfulBEq α] {l m : List α} {a : α}
    (h : a ∈ l) : (l ++ a :: m).eraseDups = (l ++ m).eraseDups := by
  rw [List.eraseDups_append, List.eraseDups_append, List.cons_removeAll]
  simp [h]

theorem nodup_eraseDups {α : Type} [BEq α] [LawfulBEq α] (l : List α) : l.eraseDups.Nodup := by
  cases l with
  | nil => exact List.nodup_nil
  | cons a l =>
      have hlength := List.length_filter_le (fun b => !b == a) l
      rw [List.eraseDups_cons, List.nodup_cons]
      exact ⟨by simp [List.mem_eraseDups], nodup_eraseDups _⟩
termination_by l.length
decreasing_by exact Nat.lt_succ_of_le hlength

theorem eraseDups_eraseDups_append {α : Type} [BEq α] [LawfulBEq α] (l m : List α) :
    (l.eraseDups ++ m).eraseDups = (l ++ m).eraseDups := by
  have hremoved : m.removeAll l.eraseDups = m.removeAll l := by
    simp [List.removeAll, List.mem_eraseDups]
  rw [List.eraseDups_append, eraseDups_of_nodup (nodup_eraseDups l), hremoved,
    List.eraseDups_append]

namespace Members

/-- The references are those of these managed clients, in the same order. -/
structure Lists (store : ClientStore) (m : Members) (cs : List Client) : Prop where
  entries_eq : m.entries = cs.map (·.ref)
  managed : ∀ c ∈ cs, c ∈ store.managed

variable {store : ClientStore} {m n : Members} {cs ds : List Client} {d : Client}

theorem lists_empty (store : ClientStore) : empty.Lists store [] :=
  ⟨rfl, by simp⟩

namespace Lists

theorem nodup (h : m.Lists store cs) : cs.Nodup := by
  have hwindows := m.windows_distinct
  rw [h.entries_eq, List.map_map] at hwindows
  exact hwindows.of_map _

theorem window_mem_iff (h : m.Lists store cs) (hd : d ∈ store.managed) :
    d.window ∈ m.entries.map (·.window) ↔ d ∈ cs := by
  rw [h.entries_eq, List.map_map, List.mem_map]
  constructor
  · rintro ⟨c, hc, hwindow⟩
    rwa [← ClientStore.eq_of_window_eq (h.managed c hc) hd hwindow]
  · intro hmem
    exact ⟨d, hmem, rfl⟩

theorem insert_of_mem (h : m.Lists store cs) (hd : d ∈ cs) : (m.insert d.ref).Lists store cs := by
  refine ⟨?_, h.managed⟩
  have hwindow : d.ref.window ∈ m.entries.map (·.window) :=
    (h.window_mem_iff (h.managed d hd)).2 hd
  rw [insert, dif_pos hwindow]
  simp only [h.entries_eq, List.map_map]
  refine List.map_congr_left ?_
  intro c hc
  by_cases heq : c.window = d.window
  · rw [ClientStore.eq_of_window_eq (h.managed c hc) (h.managed d hd) heq]
    exact if_pos rfl
  · exact if_neg heq

theorem insert_of_not_mem (h : m.Lists store cs) (hd : d ∈ store.managed) (hnot : d ∉ cs) :
    (m.insert d.ref).Lists store (cs ++ [d]) := by
  have hwindow : d.ref.window ∉ m.entries.map (·.window) :=
    fun hmem => hnot ((h.window_mem_iff hd).1 hmem)
  rw [insert, dif_neg hwindow]
  constructor
  · show m.entries ++ [d.ref] = _
    rw [h.entries_eq, List.map_append]
    rfl
  · intro c hc
    rcases List.mem_append.1 hc with hc | hc
    · exact h.managed c hc
    · rwa [List.mem_singleton.1 hc]

/-- Adding clients one after the other appends those that are not listed yet. -/
theorem insertAll (h : m.Lists store cs) (hds : ∀ d ∈ ds, d ∈ store.managed) :
    (m.insertAll (ds.map (·.ref))).Lists store (cs ++ ds).eraseDups := by
  induction ds generalizing m cs with
  | nil =>
      rw [List.append_nil, eraseDups_of_nodup h.nodup]
      exact h
  | cons d ds ih =>
      obtain ⟨hd, hds⟩ := List.forall_mem_cons.1 hds
      by_cases hmem : d ∈ cs
      · rw [eraseDups_append_cons_of_mem hmem]
        exact ih (h.insert_of_mem hmem) hds
      · rw [List.append_cons]
        exact ih (h.insert_of_not_mem hd hmem) hds

theorem filter_isLive (h : m.Lists store cs) : m.entries.filter store.isLive = m.entries := by
  rw [List.filter_eq_self, h.entries_eq]
  intro r hr
  obtain ⟨c, hc, rfl⟩ := List.mem_map.1 hr
  exact ClientStore.isLive_ref (h.managed c hc)

theorem clients (h : m.Lists store cs) : (ClientSet.some m).clients store = cs := by
  have hlookup : ∀ c ∈ cs, (store.lookup ∘ (·.ref)) c = some c :=
    fun c hc => ClientStore.lookup_ref (h.managed c hc)
  rw [ClientSet.clients, h.entries_eq, List.filterMap_map, List.filterMap_congr hlookup,
    List.filterMap_some]

theorem contains_iff (h : m.Lists store cs) (hd : d ∈ store.managed) :
    (ClientSet.some m).contains store d.window = true ↔ d ∈ cs := by
  rw [ClientSet.contains, Option.any_eq_true]
  constructor
  · rintro ⟨r, hr, -⟩
    have hwindow : r.window = d.window := by simpa using List.find?_some hr
    rw [← h.window_mem_iff hd, ← hwindow]
    exact List.mem_map_of_mem (List.mem_of_find?_eq_some hr)
  · intro hmem
    have hentry : d.ref ∈ m.entries := h.entries_eq ▸ List.mem_map_of_mem hmem
    have hfound : (m.find? d.window).isSome = true :=
      List.find?_isSome.2 ⟨d.ref, hentry, beq_self_eq_true d.window⟩
    obtain ⟨r, hr⟩ := Option.isSome_iff_exists.1 hfound
    refine ⟨r, hr, ?_⟩
    rw [← List.filter_eq_self.1 h.filter_isLive r (List.mem_of_find?_eq_some hr)]

/-- The intersection of two lists is the first one without what the second one lacks. -/
theorem intersection (h : m.Lists store cs) (h' : n.Lists store ds) :
    ∃ k, (ClientSet.some m).intersection store (.some n) = .some k ∧
      k.Lists store (cs.filter fun c => ds.contains c) := by
  refine ⟨_, rfl, ?_, fun c hc => h.managed c (List.mem_filter.1 hc).1⟩
  show m.entries.filter _ = _
  rw [h.entries_eq, List.filter_map]
  refine congrArg _ (List.filter_congr ?_)
  intro c hc
  have hlive := ClientStore.isLive_ref (h.managed c hc)
  have hcontains : (ClientSet.some n).contains store c.ref.window = ds.contains c := by
    rw [Bool.eq_iff_iff, List.contains_iff_mem]
    exact h'.contains_iff (h.managed c hc)
  simp [hlive, hcontains]

/-- The union of two lists is the first one, and behind it what the second one has besides. -/
theorem union (h : m.Lists store cs) (h' : n.Lists store ds) :
    ∃ k, (ClientSet.some m).union store (.some n) = .some k ∧
      k.Lists store (cs ++ ds).eraseDups := by
  refine ⟨_, rfl, ?_⟩
  rw [h'.filter_isLive, h'.entries_eq]
  exact h.insertAll h'.managed

end Lists

end Members

namespace ClientSet

theorem expand_none (store : ClientStore) (p : Client → Bool) :
    ∃ m, expand store p none = .some m ∧ m.Lists store (store.managed.filter p) := by
  have hmissing : (ClientSet.some .empty).missing store = store.managed := by
    rw [missing, List.filter_eq_self]
    intro c hc
    rfl
  have hnodup : (store.managed.filter p).Nodup := store.managed_nodup.filter p
  have hmanaged : ∀ c ∈ store.managed.filter p, c ∈ store.managed :=
    fun c hc => (List.mem_filter.1 hc).1
  have hlists := (Members.lists_empty store).insertAll hmanaged
  rw [List.nil_append, eraseDups_of_nodup hnodup] at hlists
  refine ⟨_, rfl, ?_⟩
  rw [hmissing]
  exact hlists

end ClientSet

end WindowActions
