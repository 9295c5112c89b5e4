import WindowActions.Client.Basic

/-!
# The clients of a window manager

The store holds every live client. Most of them are managed; some are not managed any more, but
are held by somebody. All others are gone, and no reference to them finds anything. The order of
the managed clients is the order in which their management began.

The type of the store says that no two live clients have the same serial number and no two managed
clients the same window. So a reference finds at most one client, and so does a window among the
managed ones.
-/

namespace WindowActions

structure ClientStore where
  live : List Client
  /-- A serial number above all that have been given out. -/
  nextSerial : Nat
  serials_distinct : (live.map (·.ref.serial)).Nodup
  serials_below : ∀ c ∈ live, c.ref.serial < nextSerial
  windows_distinct : ((live.filter (·.managed)).map (·.window)).Nodup

namespace ClientStore

def empty : ClientStore where
  live := []
  nextSerial := 0
  serials_distinct := List.nodup_nil
  serials_below := by simp
  windows_distinct := List.nodup_nil

instance : Inhabited ClientStore := ⟨empty⟩

/-- The managed clients, in the order in which their management began. -/
def managed (store : ClientStore) : List Client :=
  store.live.filter (·.managed)

def lookup (store : ClientStore) (r : ClientRef) : Option Client :=
  store.live.find? (·.ref == r)

def isLive (store : ClientStore) (r : ClientRef) : Bool :=
  store.live.any (·.ref == r)

def find? (store : ClientStore) (window : UInt32) : Option Client :=
  store.managed.find? (·.window == window)

def specs (store : ClientStore) : List ClientSpec :=
  store.managed.map (·.spec)

/-- Adds a managed client under a window that no managed client has. -/
def add (store : ClientStore) (window : UInt32) (state : ClientState)
    (h : ∀ c ∈ store.managed, c.window ≠ window) : ClientStore where
  live := store.live ++ [⟨⟨store.nextSerial, window⟩, state, true⟩]
  nextSerial := store.nextSerial + 1
  serials_distinct := by
    rw [List.map_append, List.nodup_append]
    refine ⟨store.serials_distinct, by simp, ?_⟩
    intro serial hserial other hother
    obtain ⟨c, hc, rfl⟩ := List.mem_map.1 hserial
    have := store.serials_below c hc
    simp only [List.map_cons, List.map_nil, List.mem_singleton] at hother
    omega
  serials_below := by
    intro c hc
    rcases List.mem_append.1 hc with hc | hc
    · exact Nat.lt_succ_of_lt (store.serials_below c hc)
    · cases List.mem_singleton.1 hc
      exact Nat.lt_succ_self _
  windows_distinct := by
    rw [List.filter_append, List.map_append, List.nodup_append]
    refine ⟨store.windows_distinct, by simp, ?_⟩
    intro w hw other hother
    obtain ⟨c, hc, rfl⟩ := List.mem_map.1 hw
    simp only [List.filter_cons, List.filter_nil, if_true, List.map_cons, List.map_nil,
      List.mem_singleton] at hother
    rw [hother]
    exact h c hc

theorem find?_eq_none_iff {store : ClientStore} {window : UInt32} :
    store.find? window = none ↔ ∀ c ∈ store.managed, c.window ≠ window := by
  simp [find?, List.find?_eq_none]

/-- Begins to manage a window, with the client of the window afterwards. A window that is managed
already keeps its client as it is. -/
def manage (store : ClientStore) (window : UInt32) (state : ClientState) : Client × ClientStore :=
  match h : store.find? window with
  | some c => (c, store)
  | none =>
    (⟨⟨store.nextSerial, window⟩, state, true⟩, store.add window state (find?_eq_none_iff.1 h))

def keep (store : ClientStore) (p : Client → Bool) : ClientStore where
  live := store.live.filter p
  nextSerial := store.nextSerial
  serials_distinct := store.serials_distinct.sublist (List.filter_sublist.map _)
  serials_below c hc := store.serials_below c (List.mem_filter.1 hc).1
  windows_distinct :=
    store.windows_distinct.sublist ((List.filter_sublist.filter _).map _)

/-- Whether a client is the managed client of a window. -/
def owns (window : UInt32) (c : Client) : Bool :=
  c.managed && c.window == window

/-- Ends the management of a window whose client nobody holds. -/
def unmanage (store : ClientStore) (window : UInt32) : ClientStore :=
  store.keep fun c => !owns window c

/-- The end of the management of a window, for one client. -/
def retired (window : UInt32) (c : Client) : Client :=
  if owns window c then { c with managed := false } else c

theorem ref_retired (window : UInt32) (c : Client) : (retired window c).ref = c.ref := by
  unfold retired; split <;> rfl

theorem filter_retired_sublist (window : UInt32) (cs : List Client) :
    (((cs.map (retired window)).filter (·.managed)).map (·.window)).Sublist
      ((cs.filter (·.managed)).map (·.window)) := by
  induction cs with
  | nil => exact List.Sublist.refl _
  | cons c cs ih =>
    by_cases hm : c.managed = true
    · by_cases hw : owns window c = true
      · simpa [retired, hw, hm] using ih.trans (List.sublist_cons_self _ _)
      · simpa [retired, hw, hm] using ih
    · have hw : owns window c = false := by simp [owns, hm]
      simpa [retired, hw, hm] using ih

/-- Ends the management of a window whose client somebody holds. -/
def retire (store : ClientStore) (window : UInt32) : ClientStore where
  live := store.live.map (retired window)
  nextSerial := store.nextSerial
  serials_distinct := by
    simpa [List.map_map, Function.comp_def, ref_retired] using store.serials_distinct
  serials_below := by
    intro c hc
    obtain ⟨d, hd, rfl⟩ := List.mem_map.1 hc
    rw [ref_retired]
    exact store.serials_below d hd
  windows_distinct :=
    store.windows_distinct.sublist (filter_retired_sublist window store.live)

/-- Lets go of a client that is not managed any more. -/
def release (store : ClientStore) (r : ClientRef) : ClientStore :=
  store.keep fun c => c.managed || c.ref != r

def mapLive (store : ClientStore) (f : Client → ClientState) : ClientStore where
  live := store.live.map fun c => { c with state := f c }
  nextSerial := store.nextSerial
  serials_distinct := by
    simpa [List.map_map, Function.comp_def] using store.serials_distinct
  serials_below := by
    intro c hc
    obtain ⟨d, hd, rfl⟩ := List.mem_map.1 hc
    exact store.serials_below d hd
  windows_distinct := by
    simpa [List.filter_map, List.map_map, Function.comp_def, Client.window]
      using store.windows_distinct

def mapManaged (store : ClientStore) (f : Client → ClientState) : ClientStore :=
  store.mapLive fun c => if c.managed then f c else c.state

def modify (store : ClientStore) (r : ClientRef) (f : ClientState → ClientState) : ClientStore :=
  store.mapLive fun c => if c.ref = r then f c.state else c.state

/-- The store that manages the windows of a list one after the other. -/
def ofSpecs (specs : List ClientSpec) : ClientStore :=
  specs.foldl (fun store spec => (store.manage spec.window spec.state).2) empty

theorem lookup_isSome (store : ClientStore) (r : ClientRef) :
    (store.lookup r).isSome = store.isLive r := by
  rw [Bool.eq_iff_iff, lookup, isLive, List.find?_isSome, List.any_eq_true]

theorem managed_refs_mapLive (store : ClientStore) (f : Client → ClientState) :
    (store.mapLive f).managed.map (·.ref) = store.managed.map (·.ref) := by
  simp [managed, mapLive, List.filter_map, Function.comp_def]

theorem isLive_mapLive (store : ClientStore) (f : Client → ClientState) (r : ClientRef) :
    (store.mapLive f).isLive r = store.isLive r := by
  simp [isLive, mapLive, Function.comp_def]

end ClientStore

end WindowActions
