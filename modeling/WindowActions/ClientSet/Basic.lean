import WindowActions.Client.Store

/-!
# Sets of clients

A set is either the set of all managed clients, whichever they are when it is looked at, or an
ordered list of references, at most one to a window. References do not keep a client alive: a
client that is gone has left every set, although its reference may still stand there. So every
question about a set is asked of a set together with the store.
-/

namespace WindowActions

/-- References in the order in which they were added, at most one to a window. -/
structure Members where
  entries : List ClientRef
  windows_distinct : (entries.map (·.window)).Nodup
deriving DecidableEq, Repr

namespace Members

def empty : Members := ⟨[], List.nodup_nil⟩

instance : Inhabited Members := ⟨empty⟩

/-- The reference `r` in the place of `e` if both have one window. -/
def replaced (r e : ClientRef) : ClientRef := if e.window = r.window then r else e

theorem window_replaced (r e : ClientRef) : (replaced r e).window = e.window := by
  unfold replaced; split <;> simp [*]

/-- Adds a reference at the end, or in the place of the one with the same window. -/
def insert (m : Members) (r : ClientRef) : Members :=
  if h : r.window ∈ m.entries.map (·.window) then
    ⟨m.entries.map (replaced r), by
      simpa [List.map_map, Function.comp_def, window_replaced] using m.windows_distinct⟩
  else
    ⟨m.entries ++ [r], by
      rw [List.map_append, List.nodup_append]
      refine ⟨m.windows_distinct, by simp, ?_⟩
      intro w hw other hother
      simp only [List.map_cons, List.map_nil, List.mem_singleton] at hother
      rw [hother]
      exact fun he => h (he ▸ hw)⟩

def insertAll (m : Members) (rs : List ClientRef) : Members := rs.foldl insert m

def filter (m : Members) (p : ClientRef → Bool) : Members :=
  ⟨m.entries.filter p, m.windows_distinct.sublist (List.filter_sublist.map _)⟩

def find? (m : Members) (window : UInt32) : Option ClientRef :=
  m.entries.find? (·.window == window)

def ofManaged (store : ClientStore) (p : Client → Bool) : Members :=
  ⟨(store.managed.filter p).map (·.ref), by
    have := store.windows_distinct.sublist
      ((List.filter_sublist (p := p) (l := store.live.filter (·.managed))).map (·.window))
    simpa [List.map_map, Function.comp_def, Client.window, ClientStore.managed] using this⟩

end Members

inductive ClientSet where
  /-- Every managed client, also one whose management begins later. -/
  | all
  | some (members : Members)
deriving DecidableEq, Repr

namespace ClientSet

def empty : ClientSet := .some .empty

instance : Inhabited ClientSet := ⟨empty⟩

def insert (set : ClientSet) (r : ClientRef) : ClientSet :=
  match set with
  | .all => .all
  | .some m => .some (m.insert r)

def single (r : ClientRef) : ClientSet := empty.insert r

/-- Whether this is the set of all managed clients. -/
def isUniversal : ClientSet → Bool
  | .all => true
  | .some _ => false

/-- The same set without the references to clients that are gone. -/
def duplicate (store : ClientStore) : ClientSet → ClientSet
  | .all => .all
  | .some m => .some (m.filter store.isLive)

/-- Whether a live client of the set has this window. The set of all clients has every window. -/
def contains (store : ClientStore) (set : ClientSet) (window : UInt32) : Bool :=
  match set with
  | .all => true
  | .some m => (m.find? window).any store.isLive

/-- The number of live clients, which the set of all clients does not have. -/
def size (store : ClientStore) : ClientSet → Option Nat
  | .all => none
  | .some m => Option.some (m.entries.countP store.isLive)

/-- Whether the set counts as true: if it is the set of all clients or has a live client. -/
def isTrue (store : ClientStore) (set : ClientSet) : Bool :=
  match set.size store with
  | none => true
  | Option.some n => n != 0

/-- The live clients of the set, in its order. -/
def clients (store : ClientStore) : ClientSet → List Client
  | .all => store.managed
  | .some m => m.entries.filterMap store.lookup

/-- The clients of either set: those of the first, then the others of the second. -/
def union (store : ClientStore) (a b : ClientSet) : ClientSet :=
  match a, b with
  | _, .all => .all
  | .all, .some _ => .all
  | .some m, .some n => .some (m.insertAll (n.entries.filter store.isLive))

/-- The clients of the first set whose windows the second contains. -/
def intersection (store : ClientStore) (a b : ClientSet) : ClientSet :=
  match a, b with
  | .all, b => b
  | .some m, .all => .some m
  | .some m, .some n =>
    .some (m.filter fun r => store.isLive r && (ClientSet.some n).contains store r.window)

/-- The clients of the set that pass a test, or nothing if none does. -/
def reduce (store : ClientStore) (p : Client → Bool) (set : ClientSet) : Option ClientSet :=
  let members :=
    match set with
    | .all => Members.ofManaged store p
    | .some m => m.filter fun r => (store.lookup r).any p
  if members.entries.isEmpty then none else Option.some (.some members)

def missing (store : ClientStore) (set : ClientSet) : List Client :=
  store.managed.filter fun c => !set.contains store c.window

/-- The set with all managed clients added that it lacks and that pass a test. -/
def expand (store : ClientStore) (p : Client → Bool) (set : Option ClientSet) : ClientSet :=
  match set.getD empty with
  | .all => .all
  | .some m =>
    .some (m.insertAll ((((ClientSet.some m).missing store).filter p).map (·.ref)))

end ClientSet

end WindowActions
