import Mathlib.Data.Set.Card
import Mathlib.Logic.Function.Basic
import WindowActions.Proofs.Membership.Entries
import WindowActions.Proofs.Selection.Listed

/-!
# Sets of clients as ideal sets

An ideal set is what a set of clients is meant to be: all clients, or a set of identities in the
mathematical sense. It knows nothing of windows, and it does not forget a client that is gone.

`Refines` ties a set to an ideal one: as far as live clients go they have the same members, and
neither has a member that is still to come. The second half is what keeps the first one true when
a window is given to a new client, for that client has an identity of its own.

A `SetWorld` is a store with sets made from its clients, each beside its ideal set. The main
statement is `SetWorld.shows_ideal`: after any steps, a set shows exactly what is alive of its
ideal set.
-/

namespace WindowActions

/-- All clients, or those with certain identities. -/
inductive IdealSet where
  | all
  | only (members : Set ClientRef)

namespace IdealSet

def Has (r : ClientRef) : IdealSet → Prop
  | all => True
  | only members => r ∈ members

def empty : IdealSet := only ∅

def single (r : ClientRef) : IdealSet := only {r}

def insert (r : ClientRef) : IdealSet → IdealSet
  | all => all
  | only members => only (members ∪ {r})

def union : IdealSet → IdealSet → IdealSet
  | only members, only others => only (members ∪ others)
  | _, _ => all

def inter : IdealSet → IdealSet → IdealSet
  | all, ideal => ideal
  | ideal, all => ideal
  | only members, only others => only (members ∩ others)

end IdealSet

/-- On live clients, the set and the ideal set have the same members, and neither of them has a
member that is still to come. -/
inductive Refines (store : ClientStore) : ClientSet → IdealSet → Prop
  | all : Refines store .all .all
  | only {m : Members} {members : Set ClientRef}
      (agree : ∀ c ∈ store.live, c.ref ∈ m.entries ↔ c.ref ∈ members)
      (issued : ∀ r, r ∈ m.entries ∨ r ∈ members → r.serial < store.nextSerial) :
      Refines store (.some m) (.only members)

/-- No two live clients have one window, as it is if only the managed ones are alive. -/
def ClientStore.WindowsApart (store : ClientStore) : Prop :=
  ∀ c ∈ store.live, ∀ d ∈ store.live, c.window = d.window → c = d

namespace Members

variable {store : ClientStore} {m : Members} {c : Client} {r : ClientRef} {rs : List ClientRef}

/-- A live client is lost to no other one that is added. -/
theorem ref_mem_insert_iff (hc : c ∈ store.live)
    (hr : ∀ d ∈ store.live, d.window = r.window → d.ref = r) :
    c.ref ∈ (m.insert r).entries ↔ c.ref ∈ m.entries ∨ c.ref = r := by
  rw [mem_insert, or_comm]
  constructor
  · rintro (⟨hmem, -⟩ | heq)
    · exact Or.inl hmem
    · exact Or.inr heq
  · rintro (hmem | heq)
    · by_cases hwindow : c.ref.window = r.window
      · exact Or.inr (hr c hc hwindow)
      · exact Or.inl ⟨hmem, hwindow⟩
    · exact Or.inr heq

theorem ref_mem_insertAll_iff (apart : store.WindowsApart) (hc : c ∈ store.live)
    (hrs : ∀ r ∈ rs, store.isLive r = true) :
    c.ref ∈ (m.insertAll rs).entries ↔ c.ref ∈ m.entries ∨ c.ref ∈ rs := by
  induction rs generalizing m with
  | nil => simp [insertAll]
  | cons r rs ih =>
      obtain ⟨hr, hrest⟩ := List.forall_mem_cons.1 hrs
      obtain ⟨owner, howner, rfl⟩ := ClientStore.isLive_iff.1 hr
      have hone : ∀ d ∈ store.live, d.window = owner.ref.window → d.ref = owner.ref :=
        fun d hd hwindow => congrArg Client.ref (apart d hd owner howner hwindow)
      rw [insertAll_cons, ih hrest, ref_mem_insert_iff hc hone, List.mem_cons, or_assoc]

end Members

namespace Refines

variable {store : ClientStore} {set other : ClientSet} {ideal ideal' : IdealSet} {r : ClientRef}

theorem empty (store : ClientStore) : Refines store .empty .empty := by
  refine .only ?_ ?_
  · intro c hc
    simp [Members.empty]
  · intro r hr
    simp [Members.empty] at hr

theorem insert (h : Refines store set ideal)
    (hone : ∀ d ∈ store.live, d.window = r.window → d.ref = r)
    (hissued : r.serial < store.nextSerial) :
    Refines store (set.insert r) (ideal.insert r) := by
  cases h with
  | all => exact .all
  | only agree issued =>
      refine .only ?_ ?_
      · intro c hc
        rw [Members.ref_mem_insert_iff hc hone, agree c hc]
        rfl
      · rintro e (he | he | rfl)
        · rcases Members.mem_insert.1 he with rfl | ⟨he, -⟩
          · exact hissued
          · exact issued e (Or.inl he)
        · exact issued e (Or.inr he)
        · exact hissued

theorem single (hone : ∀ d ∈ store.live, d.window = r.window → d.ref = r)
    (hissued : r.serial < store.nextSerial) : Refines store (.single r) (.single r) := by
  have h := (Refines.empty store).insert hone hissued
  simp only [IdealSet.empty, IdealSet.insert, Set.empty_union] at h
  exact h

theorem duplicate (h : Refines store set ideal) :
    Refines store (set.duplicate store) ideal := by
  cases h with
  | all => exact .all
  | only agree issued =>
      refine .only ?_ ?_
      · intro c hc
        rw [Members.mem_filter, ← agree c hc, and_iff_left (ClientStore.isLive_iff.2 ⟨c, hc, rfl⟩)]
      · rintro e (he | he)
        · exact issued e (Or.inl (Members.mem_filter.1 he).1)
        · exact issued e (Or.inr he)

theorem union (apart : store.WindowsApart) (h : Refines store set ideal)
    (h' : Refines store other ideal') :
    Refines store (set.union store other) (ideal.union ideal') := by
  cases h' with
  | all => cases h <;> exact .all
  | only agree' issued' =>
      cases h with
      | all => exact .all
      | only agree issued =>
          refine .only ?_ ?_
          · intro c hc
            have hlive : store.isLive c.ref = true := ClientStore.isLive_iff.2 ⟨c, hc, rfl⟩
            rw [Members.ref_mem_insertAll_iff apart hc fun r hr => (List.mem_filter.1 hr).2,
              List.mem_filter, and_iff_left hlive, agree c hc, agree' c hc]
            rfl
          · rintro e (he | he | he)
            · rcases Members.mem_of_mem_insertAll he with he | he
              · exact issued e (Or.inl he)
              · exact issued' e (Or.inl (List.mem_filter.1 he).1)
            · exact issued e (Or.inr he)
            · exact issued' e (Or.inr he)

/-- An intersection looks at windows only, but a live client shares its window with no other. -/
theorem inter (apart : store.WindowsApart) (h : Refines store set ideal)
    (h' : Refines store other ideal') :
    Refines store (set.intersection store other) (ideal.inter ideal') := by
  cases h with
  | all => cases h' with
    | all => exact .all
    | only agree' issued' => exact .only agree' issued'
  | @only m members agree issued =>
      cases h' with
      | all => exact .only agree issued
      | @only n others agree' issued' =>
          have hcontains : ∀ c ∈ store.live,
              ((ClientSet.some n).contains store c.ref.window = true ↔ c.ref ∈ n.entries) := by
            intro c hc
            rw [ClientSet.contains_some_iff]
            constructor
            · rintro ⟨d, hd, hmem, hwindow⟩
              rwa [apart c hc d hd hwindow.symm]
            · intro hmem
              exact ⟨c, hc, hmem, rfl⟩
          refine .only ?_ ?_
          · intro c hc
            have hlive : store.isLive c.ref = true := ClientStore.isLive_iff.2 ⟨c, hc, rfl⟩
            rw [Members.mem_filter, hlive, Bool.true_and, hcontains c hc, agree c hc, agree' c hc]
            rfl
          · rintro e (he | ⟨he, -⟩)
            · exact issued e (Or.inl (Members.mem_filter.1 he).1)
            · exact issued e (Or.inr he)

theorem keep (h : Refines store set ideal) (p : Client → Bool) :
    Refines (store.keep p) set ideal := by
  cases h with
  | all => exact .all
  | only agree issued => exact .only (fun c hc => agree c (List.mem_filter.1 hc).1) issued

/-- A client whose management begins is in none of the sets that are there already. -/
theorem add (h : Refines store set ideal) (window : UInt32) (state : ClientState)
    (hfree : ∀ c ∈ store.managed, c.window ≠ window) :
    Refines (store.add window state hfree) set ideal := by
  cases h with
  | all => exact .all
  | only agree issued =>
      refine .only ?_ ?_
      · intro c hc
        rcases List.mem_append.1 hc with hc | hc
        · exact agree c hc
        · rw [List.mem_singleton] at hc
          have hnew : ¬ c.ref.serial < store.nextSerial := by simp [hc]
          exact iff_of_false (fun he => hnew (issued _ (Or.inl he)))
            (fun he => hnew (issued _ (Or.inr he)))
      · intro e he
        exact Nat.lt_succ_of_lt (issued e he)

theorem eq_all_iff (h : Refines store set ideal) : set = .all ↔ ideal = .all := by
  cases h <;> simp

theorem mem_clients_iff (h : Refines store set ideal) (hmanaged : store.managed = store.live)
    {c : Client} : c ∈ set.clients store ↔ c ∈ store.live ∧ ideal.Has c.ref := by
  cases h with
  | all =>
      rw [ClientSet.clients, hmanaged]
      exact (and_iff_left trivial).symm
  | only agree issued =>
      rw [ClientSet.mem_clients_some]
      exact and_congr_right (agree c)

theorem contains_iff (h : Refines store set ideal) {window : UInt32} :
    set.contains store window = true ↔
      ideal = .all ∨ ∃ c, (c ∈ store.live ∧ ideal.Has c.ref) ∧ c.window = window := by
  cases h with
  | all => simp [ClientSet.contains]
  | only agree issued =>
      rw [ClientSet.contains_some_iff, or_iff_right (by simp)]
      refine exists_congr fun c => ?_
      rw [← and_assoc]
      exact and_congr_left' (and_congr_right (agree c))

theorem isTrue_iff (h : Refines store set ideal) :
    set.isTrue store = true ↔ ideal = .all ∨ ∃ c, c ∈ store.live ∧ ideal.Has c.ref := by
  cases h with
  | all => simp [ClientSet.isTrue, ClientSet.size]
  | only agree issued =>
      rw [ClientSet.isTrue_some_iff, or_iff_right (by simp)]
      exact exists_congr fun c => and_congr_right (agree c)

theorem size_eq (h : Refines store set ideal) :
    (ideal = .all → set.size store = none) ∧
      (ideal ≠ .all → set.size store = some (set.clients store).length) := by
  cases h with
  | all => simp [ClientSet.size]
  | only agree issued => simp [ClientSet.size_some]

end Refines

/-- A store whose managed clients are all that is alive, and sets of its clients, each beside the
ideal set that it stands for. -/
structure SetWorld where
  store : ClientStore := .empty
  sets : Nat → ClientSet := fun _ => .empty
  ideals : Nat → IdealSet := fun _ => .empty

inductive SetStep where
  | manage (window : UInt32) (state : ClientState)
  | unmanage (window : UInt32)
  /-- Ends the management of a window, and adds to a set the client that has just lost it. -/
  | unmanageInto (window : UInt32) (set : Nat)
  | empty (into : Nat)
  | all (into : Nat)
  | single (window : UInt32) (into : Nat)
  | insert (window : UInt32) (set : Nat)
  | duplicate (set into : Nat)
  | union (a b into : Nat)
  | intersection (a b into : Nat)

namespace SetWorld

def put (w : SetWorld) (i : Nat) (set : ClientSet) (ideal : IdealSet) : SetWorld :=
  { w with sets := Function.update w.sets i set, ideals := Function.update w.ideals i ideal }

/-- Adds the managed client of a window to a set and to its ideal set. -/
def insert (w : SetWorld) (window : UInt32) (i : Nat) : SetWorld :=
  match w.store.find? window with
  | none => w
  | some c => w.put i ((w.sets i).insert c.ref) ((w.ideals i).insert c.ref)

def single (w : SetWorld) (window : UInt32) (i : Nat) : SetWorld :=
  match w.store.find? window with
  | none => w
  | some c => w.put i (.single c.ref) (.single c.ref)

def step (w : SetWorld) : SetStep → SetWorld
  | .manage window state => { w with store := (w.store.manage window state).2 }
  | .unmanage window => { w with store := w.store.unmanage window }
  | .unmanageInto window set =>
    { w.insert window set with store := w.store.unmanage window }
  | .empty into => w.put into .empty .empty
  | .all into => w.put into .all .all
  | .single window into => w.single window into
  | .insert window set => w.insert window set
  | .duplicate set into => w.put into ((w.sets set).duplicate w.store) (w.ideals set)
  | .union a b into =>
    w.put into ((w.sets a).union w.store (w.sets b)) ((w.ideals a).union (w.ideals b))
  | .intersection a b into =>
    w.put into ((w.sets a).intersection w.store (w.sets b)) ((w.ideals a).inter (w.ideals b))

/-- The world after several steps, from one without clients and with empty sets only. -/
def after (steps : List SetStep) : SetWorld := steps.foldl step {}

/-- The live clients that an ideal set has. -/
def liveMembers (w : SetWorld) (i : Nat) : Set Client :=
  {c | c ∈ w.store.live ∧ (w.ideals i).Has c.ref}

structure Sound (w : SetWorld) : Prop where
  managed : ∀ c ∈ w.store.live, c.managed = true
  refines : ∀ i, Refines w.store (w.sets i) (w.ideals i)

namespace Sound

variable {w : SetWorld}

theorem managed_eq_live (h : w.Sound) : w.store.managed = w.store.live :=
  List.filter_eq_self.2 h.managed

theorem windowsApart (h : w.Sound) : w.store.WindowsApart := by
  intro c hc d hd hwindow
  rw [← h.managed_eq_live] at hc hd
  exact ClientStore.eq_of_window_eq hc hd hwindow

theorem put (h : w.Sound) (i : Nat) {set : ClientSet} {ideal : IdealSet}
    (hrefines : Refines w.store set ideal) : (w.put i set ideal).Sound := by
  refine ⟨h.managed, ?_⟩
  intro j
  by_cases hj : j = i
  · subst hj
    simpa [SetWorld.put] using hrefines
  · simpa [SetWorld.put, hj] using h.refines j

theorem owner (h : w.Sound) {window : UInt32} {owner : Client}
    (hfind : w.store.find? window = some owner) :
    (∀ d ∈ w.store.live, d.window = owner.ref.window → d.ref = owner.ref) ∧
      owner.ref.serial < w.store.nextSerial := by
  have howner : owner ∈ w.store.live := by
    rw [← h.managed_eq_live]
    exact List.mem_of_find?_eq_some hfind
  refine ⟨?_, w.store.serials_below owner howner⟩
  intro d hd hwindow
  rw [h.windowsApart d hd owner howner hwindow]

theorem insert (h : w.Sound) (window : UInt32) (i : Nat) : (w.insert window i).Sound := by
  rw [SetWorld.insert]
  cases hfind : w.store.find? window with
  | none => exact h
  | some owner =>
      obtain ⟨hone, hissued⟩ := h.owner hfind
      exact h.put i ((h.refines i).insert hone hissued)

theorem single (h : w.Sound) (window : UInt32) (i : Nat) : (w.single window i).Sound := by
  rw [SetWorld.single]
  cases hfind : w.store.find? window with
  | none => exact h
  | some owner =>
      obtain ⟨hone, hissued⟩ := h.owner hfind
      exact h.put i (.single hone hissued)

theorem manage (h : w.Sound) (window : UInt32) (state : ClientState) :
    Sound { w with store := (w.store.manage window state).2 } := by
  rw [ClientStore.manage]
  split
  case h_1 => exact h
  case h_2 hfind =>
      refine ⟨?_, fun i => (h.refines i).add window state (ClientStore.find?_eq_none_iff.1 hfind)⟩
      intro c hc
      rcases List.mem_append.1 hc with hc | hc
      · exact h.managed c hc
      · rw [List.mem_singleton.1 hc]

theorem unmanage (h : w.Sound) (window : UInt32) :
    Sound { w with store := w.store.unmanage window } :=
  ⟨fun c hc => h.managed c (List.mem_filter.1 hc).1, fun i => (h.refines i).keep _⟩

end Sound

theorem store_insert (w : SetWorld) (window : UInt32) (i : Nat) :
    (w.insert window i).store = w.store := by
  rw [insert]
  split <;> rfl

theorem sound_step {w : SetWorld} (h : w.Sound) (step : SetStep) : (w.step step).Sound := by
  cases step with
  | manage window state => exact h.manage window state
  | unmanage window => exact h.unmanage window
  | unmanageInto window set =>
      have hinsert := (h.insert window set).unmanage window
      rwa [store_insert] at hinsert
  | empty into => exact h.put into (.empty _)
  | all into => exact h.put into .all
  | single window into => exact h.single window into
  | insert window set => exact h.insert window set
  | duplicate set into => exact h.put into (h.refines set).duplicate
  | union a b into => exact h.put into ((h.refines a).union h.windowsApart (h.refines b))
  | intersection a b into => exact h.put into ((h.refines a).inter h.windowsApart (h.refines b))

theorem sound_after (steps : List SetStep) : (after steps).Sound := by
  have hstart : Sound {} := ⟨by simp [ClientStore.empty], fun i => .empty _⟩
  exact List.foldlRecOn steps step hstart fun w h step _ => sound_step h step

/-- After any steps, a set shows exactly what is alive of the ideal set that it stands for. -/
theorem shows_ideal (steps : List SetStep) (i : Nat) :
    let w := after steps
    let set := w.sets i
    let universal := w.ideals i = .all
    (∀ window, set.contains w.store window = true ↔
      universal ∨ ∃ c ∈ w.liveMembers i, c.window = window) ∧
    (set.clients w.store).Nodup ∧
    (∀ c, c ∈ set.clients w.store ↔ c ∈ w.liveMembers i) ∧
    (universal → set.clients w.store = w.store.managed) ∧
    (universal → set.size w.store = none) ∧
    (¬ universal → set.size w.store = some (w.liveMembers i).ncard) ∧
    (set.isTrue w.store = true ↔ universal ∨ (w.liveMembers i).Nonempty) := by
  intro w set universal
  have hsound : w.Sound := sound_after steps
  have hrefines := hsound.refines i
  have hmem : ∀ c, c ∈ set.clients w.store ↔ c ∈ w.liveMembers i :=
    fun c => hrefines.mem_clients_iff hsound.managed_eq_live
  have hcount : (w.liveMembers i).ncard = (set.clients w.store).length := by
    have hfinset : w.liveMembers i = ↑(set.clients w.store).toFinset := by
      ext c
      rw [List.coe_toFinset]
      exact (hmem c).symm
    rw [hfinset, Set.ncard_coe_finset,
      List.toFinset_card_of_nodup (ClientSet.nodup_clients w.store set)]
  refine ⟨fun window => hrefines.contains_iff, ClientSet.nodup_clients w.store set, hmem, ?_,
    hrefines.size_eq.1, ?_, hrefines.isTrue_iff⟩
  · intro huniversal
    have hall : set = .all := hrefines.eq_all_iff.2 huniversal
    rw [hall]
    rfl
  · intro hne
    rw [hcount]
    exact hrefines.size_eq.2 hne

end SetWorld

end WindowActions
