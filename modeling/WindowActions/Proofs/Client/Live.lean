import Mathlib.Data.List.Nodup
import WindowActions.Client.Store

/-!
# Live clients

A reference finds a client exactly if the client is live. Which clients are live, which of them are
managed and in which order they stand does not depend on their states, so it is the same after
every `mapLive`.
-/

namespace WindowActions

namespace ClientStore

variable {store : ClientStore} {c d : Client} {r : ClientRef}

/-- Live clients are told apart by their references. -/
theorem eq_of_ref_eq (hc : c ∈ store.live) (hd : d ∈ store.live) (h : c.ref = d.ref) : c = d :=
  List.inj_on_of_nodup_map store.serials_distinct hc hd (congrArg ClientRef.serial h)

theorem isLive_iff : store.isLive r = true ↔ ∃ c ∈ store.live, c.ref = r := by
  simp [isLive]

theorem lookup_eq_some_iff : store.lookup r = some c ↔ c ∈ store.live ∧ c.ref = r := by
  constructor
  · intro h
    exact ⟨List.mem_of_find?_eq_some h, by simpa using List.find?_some h⟩
  · rintro ⟨hc, hr⟩
    have hsome : (store.lookup r).isSome = true :=
      (lookup_isSome store r).trans (isLive_iff.2 ⟨c, hc, hr⟩)
    obtain ⟨d, hd⟩ := Option.isSome_iff_exists.1 hsome
    have href : d.ref = r := by simpa using List.find?_some hd
    rw [hd, eq_of_ref_eq (List.mem_of_find?_eq_some hd) hc (href.trans hr.symm)]

/-- The client `c` with its state taken from `f`. -/
abbrev restated (f : Client → ClientState) (c : Client) : Client := { c with state := f c }

theorem live_mapLive (store : ClientStore) (f : Client → ClientState) :
    (store.mapLive f).live = store.live.map (restated f) := rfl

theorem managed_mapLive (store : ClientStore) (f : Client → ClientState) :
    (store.mapLive f).managed = store.managed.map (restated f) := by
  simp [managed, mapLive, List.filter_map, Function.comp_def]

theorem mapLive_mapLive (store : ClientStore) (f g : Client → ClientState) :
    (store.mapLive f).mapLive g = store.mapLive fun c => g (restated f c) := by
  simp [mapLive, Function.comp_def]

theorem mapLive_self (store : ClientStore) : store.mapLive (·.state) = store := by
  simp [mapLive]

theorem lookup_mapLive (store : ClientStore) (f : Client → ClientState) (r : ClientRef) :
    (store.mapLive f).lookup r = (store.lookup r).map (restated f) := by
  rw [lookup, live_mapLive, List.find?_map]
  rfl

theorem mem_live_of_mem_managed (h : c ∈ store.managed) : c ∈ store.live :=
  (List.mem_filter.1 h).1

theorem managed_nodup (store : ClientStore) : store.managed.Nodup :=
  store.windows_distinct.of_map _

/-- Managed clients are told apart by their references. -/
theorem eq_of_managed_ref_eq (hc : c ∈ store.managed) (hd : d ∈ store.managed)
    (h : c.ref = d.ref) : c = d :=
  eq_of_ref_eq (mem_live_of_mem_managed hc) (mem_live_of_mem_managed hd) h

/-- Managed clients are told apart by their windows. -/
theorem eq_of_window_eq (hc : c ∈ store.managed) (hd : d ∈ store.managed)
    (h : c.window = d.window) : c = d :=
  List.inj_on_of_nodup_map store.windows_distinct hc hd h

theorem isLive_ref (h : c ∈ store.managed) : store.isLive c.ref = true :=
  isLive_iff.2 ⟨c, mem_live_of_mem_managed h, rfl⟩

theorem lookup_ref (h : c ∈ store.managed) : store.lookup c.ref = some c :=
  lookup_eq_some_iff.2 ⟨mem_live_of_mem_managed h, rfl⟩

theorem mem_managed_keep {p : Client → Bool} (h : c ∈ (store.keep p).managed) :
    c ∈ store.managed := by
  obtain ⟨hc, hmanaged⟩ := List.mem_filter.1 h
  exact List.mem_filter.2 ⟨(List.mem_filter.1 hc).1, hmanaged⟩

theorem mem_managed_retire {window : UInt32} (h : c ∈ (store.retire window).managed) :
    c ∈ store.managed := by
  obtain ⟨hc, hmanaged⟩ := List.mem_filter.1 h
  obtain ⟨old, hold, rfl⟩ := List.mem_map.1 hc
  by_cases howns : owns window old = true
  · simp [retired, howns] at hmanaged
  · have hsame : retired window old = old := if_neg howns
    rw [hsame] at hmanaged ⊢
    exact List.mem_filter.2 ⟨hold, hmanaged⟩

/-- A client whose management begins has a serial number that no client had before. -/
theorem manage_cases (store : ClientStore) (window : UInt32) (state : ClientState) :
    (store.manage window state).2 = store ∨
      (store.manage window state).2.managed =
          store.managed ++ [⟨⟨store.nextSerial, window⟩, state, true⟩] ∧
        (store.manage window state).2.nextSerial = store.nextSerial + 1 := by
  rw [manage]
  split
  case h_1 => exact Or.inl rfl
  case h_2 => exact Or.inr ⟨by simp [managed, add], rfl⟩

theorem mem_managed_manage {window : UInt32} {state : ClientState}
    (h : c ∈ (store.manage window state).2.managed) : c ∈ store.managed ∨ c.state = state := by
  rw [manage] at h
  split at h
  case h_1 => exact Or.inl h
  case h_2 =>
      obtain ⟨hc, hmanaged⟩ := List.mem_filter.1 h
      rcases List.mem_append.1 hc with hc | hc
      · exact Or.inl (List.mem_filter.2 ⟨hc, hmanaged⟩)
      · rw [List.mem_singleton.1 hc]
        exact Or.inr rfl

end ClientStore

end WindowActions
