import WindowActions.Proofs.Membership.Lattice

/-!
# What a test is asked

Clients are taken out of a set and added to it by going over clients one after the other and asking
a test about them. `reduceAsking` and `expandAsking` are these loops, turn by turn and with a record
of the questions. They end with the sets that `reduce` and `expand` are. What the test is asked
about are the clients of the set, and the clients that it lacks, each of them once and in order.

The second loop asks the growing set whether a client is there already. It could as well ask the
set of the beginning, because no two managed clients have one window.
-/

namespace WindowActions

/-- Keeps what stands for a client that passes the test, behind the record of what was asked before.
Nothing is asked about what stands for no client. -/
def keepAsking {α : Type} (client : α → Option Client) (p : Client → Bool)
    (asked : List Client) : List α → List α × List Client
  | [] => ([], asked)
  | a :: as =>
    match client a with
    | none => keepAsking client p asked as
    | some c =>
      let (kept, asked) := keepAsking client p (asked ++ [c]) as
      (if p c then a :: kept else kept, asked)

theorem keepAsking_eq {α : Type} (client : α → Option Client) (p : Client → Bool)
    (asked : List Client) (as : List α) :
    keepAsking client p asked as =
      (as.filter fun a => (client a).any p, asked ++ as.filterMap client) := by
  induction as generalizing asked with
  | nil => simp [keepAsking]
  | cons a as ih =>
      cases hclient : client a with
      | none => simp [keepAsking, hclient, ih]
      | some c => simp [keepAsking, hclient, ih, List.filter_cons]

namespace Members

variable {m : Members} {rs : List ClientRef}

/-- References with windows of their own are added at the end. -/
theorem entries_insertAll (distinct : ((m.entries ++ rs).map (·.window)).Nodup) :
    (m.insertAll rs).entries = m.entries ++ rs := by
  induction rs generalizing m with
  | nil => exact (List.append_nil _).symm
  | cons r rs ih =>
      have hnew : r.window ∉ m.entries.map (·.window) := by
        rw [List.map_append, List.map_cons, List.nodup_middle, List.nodup_cons] at distinct
        exact fun h => distinct.1 (List.mem_append_left _ h)
      have hinsert : (m.insert r).entries = m.entries ++ [r] := by rw [insert, dif_neg hnew]
      rw [List.append_cons] at distinct ⊢
      rw [insertAll_cons, ih (by rw [hinsert]; exact distinct), hinsert]

theorem empty_insertAll_entries (m : Members) : empty.insertAll m.entries = m :=
  eq_of_entries_eq (entries_insertAll (m := empty) m.windows_distinct)

/-- Adds the clients that the set has not got when their turn comes and that pass the test. -/
def addAsking (store : ClientStore) (p : Client → Bool) (m : Members) (asked : List Client) :
    List Client → Members × List Client
  | [] => (m, asked)
  | c :: cs =>
    if (ClientSet.some m).contains store c.window then
      addAsking store p m asked cs
    else if p c then
      addAsking store p (m.insert c.ref) (asked ++ [c]) cs
    else
      addAsking store p m (asked ++ [c]) cs

theorem addAsking_eq {store : ClientStore} {cs : List Client}
    (live : ∀ c ∈ cs, store.isLive c.ref = true) (distinct : (cs.map (·.window)).Nodup)
    (p : Client → Bool) (m : Members) (asked : List Client) :
    m.addAsking store p asked cs =
      let missing := cs.filter fun c => !(ClientSet.some m).contains store c.window
      (m.insertAll ((missing.filter p).map (·.ref)), asked ++ missing) := by
  induction cs generalizing m asked with
  | nil => simp [addAsking, insertAll]
  | cons c cs ih =>
      obtain ⟨hc, hlive⟩ := List.forall_mem_cons.1 live
      obtain ⟨hnew, hdistinct⟩ := List.nodup_cons.1 distinct
      have hinsert : ∀ d ∈ cs, (ClientSet.some (m.insert c.ref)).contains store d.window =
          (ClientSet.some m).contains store d.window := by
        intro d hd
        have hne : c.ref.window ≠ d.window := by
          intro heq
          exact hnew (List.mem_map.2 ⟨d, hd, heq.symm⟩)
        rw [ClientSet.contains, ClientSet.contains, find?_insert, if_neg hne]
      have hmissing := List.filter_congr fun d hd => congrArg (! ·) (hinsert d hd)
      rw [addAsking, List.filter_cons]
      cases hcontains : (ClientSet.some m).contains store c.window with
      | true => exact ih hlive hdistinct m asked
      | false =>
          cases hp : p c with
          | true =>
              have hrest := ih hlive hdistinct (m.insert c.ref) (asked ++ [c])
              simp only [hmissing] at hrest
              simpa [hp, insertAll_cons] using hrest
          | false => simpa [hp] using ih hlive hdistinct m (asked ++ [c])

end Members

namespace ClientSet

/-- The set of these references, or nothing if there are none. -/
def collect (rs : List ClientRef) : Option ClientSet :=
  if rs.isEmpty then none else Option.some (.some (Members.empty.insertAll rs))

/-- The clients of the set that pass a test, or nothing if none does, and the clients that the test
is asked about. -/
def reduceAsking (store : ClientStore) (p : Client → Bool) (set : ClientSet) :
    Option ClientSet × List Client :=
  match set with
  | .all =>
    let (kept, asked) := keepAsking Option.some p [] store.managed
    (collect (kept.map (·.ref)), asked)
  | .some m =>
    let (kept, asked) := keepAsking store.lookup p [] m.entries
    (collect kept, asked)

/-- The set with all managed clients added that it lacks and that pass a test, and the clients that
the test is asked about. -/
def expandAsking (store : ClientStore) (p : Client → Bool) (set : Option ClientSet) :
    ClientSet × List Client :=
  match set.getD empty with
  | .all => (.all, [])
  | .some m =>
    let (members, asked) := m.addAsking store p [] store.managed
    (.some members, asked)

theorem collect_entries (m : Members) :
    collect m.entries = if m.entries.isEmpty then none else Option.some (.some m) := by
  rw [collect, Members.empty_insertAll_entries]

/-- Taking clients out asks about the clients of the set. -/
theorem reduceAsking_eq (store : ClientStore) (p : Client → Bool) (set : ClientSet) :
    set.reduceAsking store p = (set.reduce store p, set.clients store) := by
  cases set with
  | all =>
      have hkept := collect_entries (Members.ofManaged store p)
      simp only [reduceAsking, keepAsking_eq, List.nil_append, List.filterMap_some]
      exact Prod.ext hkept rfl
  | some m =>
      have hkept := collect_entries (m.filter fun r => (store.lookup r).any p)
      simp only [reduceAsking, keepAsking_eq, List.nil_append]
      exact Prod.ext hkept rfl

/-- Adding clients asks about those that the set lacks. -/
theorem expandAsking_eq (store : ClientStore) (p : Client → Bool) (set : Option ClientSet) :
    expandAsking store p set = (expand store p set, (set.getD empty).missing store) := by
  rw [expandAsking, expand]
  cases set.getD empty with
  | all => simp [missing, contains]
  | some m =>
      have hlive : ∀ c ∈ store.managed, store.isLive c.ref = true :=
        fun c hc => ClientStore.isLive_ref hc
      simp only [Members.addAsking_eq hlive store.windows_distinct, List.nil_append]
      rfl

end ClientSet

end WindowActions
