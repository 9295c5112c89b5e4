import Mathlib.Data.List.Forall2
import WindowActions.Proofs.Client.Live

/-!
# Stores that look the same

Two histories of a window manager can end with the same windows in the same order and have given
other serial numbers to their clients. Then a pairing tells which references stand for each other,
and clients are twins if their references are paired and their states are alike. How alike that has
to be is left open: it may be that they are equal, or that they are equal but for the focus.

Two stores are twins if their managed clients are, one by one, and if paired references find twins
or find nothing. What is done to both of them alike leaves them twins.
-/

namespace WindowActions

section Related

variable {α β γ δ : Type} {R : α → β → Prop} {Q : γ → δ → Prop}

theorem map_eq_map_of_forall₂ {l : List α} {l' : List β} (h : List.Forall₂ R l l') {f : α → γ}
    {g : β → γ} (hfg : ∀ a b, R a b → f a = g b) : l.map f = l'.map g := by
  induction h with
  | nil => rfl
  | cons hab _ ih => rw [List.map_cons, List.map_cons, hfg _ _ hab, ih]

theorem isEmpty_eq_of_forall₂ {l : List α} {l' : List β} (h : List.Forall₂ R l l') :
    l.isEmpty = l'.isEmpty := by
  cases h <;> rfl

theorem forall₂_map {l : List α} {l' : List β} (h : List.Forall₂ R l l') {f : α → γ}
    {g : β → δ} (hfg : ∀ a b, R a b → Q (f a) (g b)) :
    List.Forall₂ Q (l.map f) (l'.map g) :=
  List.forall₂_map_left_iff.2 (List.forall₂_map_right_iff.2 (h.imp hfg))

theorem forall₂_filter {l : List α} {l' : List β} (h : List.Forall₂ R l l') {p : α → Bool}
    {q : β → Bool} (hpq : ∀ a b, R a b → p a = q b) :
    List.Forall₂ R (l.filter p) (l'.filter q) :=
  List.rel_filter (fun a b hab => Bool.eq_iff_iff.1 (hpq a b hab)) h

theorem rel_find? {l : List α} {l' : List β} (h : List.Forall₂ R l l') {p : α → Bool}
    {q : β → Bool} (hpq : ∀ a b, R a b → p a = q b) : Option.Rel R (l.find? p) (l'.find? q) := by
  induction h with
  | nil => exact .none
  | @cons a b _ _ hab _ ih =>
      have heq := hpq a b hab
      cases hq : q b with
      | true => simpa [heq.trans hq, hq] using Option.Rel.some hab
      | false => simpa [heq.trans hq, hq] using ih

theorem rel_getElem? {l : List α} {l' : List β} (h : List.Forall₂ R l l') (n : Nat) :
    Option.Rel R l[n]? l'[n]? := by
  induction h generalizing n with
  | nil => exact .none
  | cons hab _ ih =>
      cases n with
      | zero => exact .some hab
      | succ n => exact ih n

variable {o : Option α} {o' : Option β}

theorem rel_map (h : Option.Rel R o o') {f : α → γ} {g : β → δ}
    (hfg : ∀ a b, R a b → Q (f a) (g b)) : Option.Rel Q (o.map f) (o'.map g) := by
  cases h with
  | some hab => exact .some (hfg _ _ hab)
  | none => exact .none

theorem rel_optionFilter (h : Option.Rel R o o') {p : α → Bool} {q : β → Bool}
    (hpq : ∀ a b, R a b → p a = q b) : Option.Rel R (o.filter p) (o'.filter q) := by
  cases h with
  | @some a b hab =>
      have heq := hpq a b hab
      cases hq : q b with
      | true => simpa [Option.filter, heq.trans hq, hq] using Option.Rel.some hab
      | false => simp [Option.filter, heq.trans hq, hq]
  | none => exact .none

theorem rel_or {u : Option α} {u' : Option β} (h : Option.Rel R o o') (hu : Option.Rel R u u') :
    Option.Rel R (o.or u) (o'.or u') := by
  cases h with
  | some hab => exact .some hab
  | none => exact hu

theorem any_eq_of_rel (h : Option.Rel R o o') {p : α → Bool} {q : β → Bool}
    (hpq : ∀ a b, R a b → p a = q b) : o.any p = o'.any q := by
  cases h with
  | some hab => exact hpq _ _ hab
  | none => rfl

theorem isSome_eq_of_rel (h : Option.Rel R o o') : o.isSome = o'.isSome := by
  cases h <;> rfl

end Related

/-- A one-to-one correspondence between references to the same windows. -/
structure Pairing where
  Pairs : ClientRef → ClientRef → Prop
  biUnique : Relator.BiUnique Pairs
  window_eq : ∀ {r r'}, Pairs r r' → r.window = r'.window

namespace Pairing

/-- Every reference stands for itself. -/
def same : Pairing where
  Pairs := Eq
  biUnique := ⟨fun _ _ _ h h' => h.trans h'.symm, fun _ _ _ h h' => h.symm.trans h'⟩
  window_eq := congrArg ClientRef.window

variable {p : Pairing} {r r' s s' : ClientRef} {rs rs' : List ClientRef}

theorem beq_eq (hr : p.Pairs r r') (hs : p.Pairs s s') : (r == s) = (r' == s') := by
  rw [Bool.eq_iff_iff, beq_iff_eq, beq_iff_eq]
  exact Relator.rel_eq p.biUnique hr hs

theorem mem_iff (hr : p.Pairs r r') (hrs : List.Forall₂ p.Pairs rs rs') : r ∈ rs ↔ r' ∈ rs' :=
  List.rel_mem p.biUnique hr hrs

end Pairing

/-- Two clients with paired references whose states are alike. -/
structure Client.Twins (p : Pairing) (alike : ClientState → ClientState → Prop)
    (c c' : Client) : Prop where
  ref : p.Pairs c.ref c'.ref
  state : alike c.state c'.state
  managed : c.managed = c'.managed

theorem Client.Twins.window {p : Pairing} {alike : ClientState → ClientState → Prop}
    {c c' : Client} (h : c.Twins p alike c') : c.window = c'.window :=
  p.window_eq h.ref

/-- Two stores that look the same through paired references. -/
structure ClientStore.Twins (p : Pairing) (alike : ClientState → ClientState → Prop)
    (store store' : ClientStore) : Prop where
  managed : List.Forall₂ (Client.Twins p alike) store.managed store'.managed
  lookup : ∀ {r r'}, p.Pairs r r' →
    Option.Rel (Client.Twins p alike) (store.lookup r) (store'.lookup r')
  /-- References that are still to come are paired in their order. -/
  fresh : ∀ n window, p.Pairs ⟨store.nextSerial + n, window⟩ ⟨store'.nextSerial + n, window⟩

namespace ClientStore

theorem managed_keep (store : ClientStore) (q : Client → Bool) :
    (store.keep q).managed = store.managed.filter q := by
  show (store.live.filter q).filter _ = (store.live.filter _).filter q
  rw [List.filter_filter, List.filter_filter]
  exact List.filter_congr fun c _ => Bool.and_comm _ _

theorem lookup_keep (store : ClientStore) (q : Client → Bool) (r : ClientRef) :
    (store.keep q).lookup r = (store.lookup r).filter q := by
  refine Option.ext fun c => ?_
  rw [lookup_eq_some_iff, Option.filter_eq_some_iff, lookup_eq_some_iff]
  show c ∈ store.live.filter q ∧ c.ref = r ↔ _
  rw [List.mem_filter, and_right_comm]

theorem managed_add {store : ClientStore} {window : UInt32} (state : ClientState)
    (h : ∀ c ∈ store.managed, c.window ≠ window) :
    (store.add window state h).managed =
      store.managed ++ [⟨⟨store.nextSerial, window⟩, state, true⟩] := by
  simp [managed, add]

theorem lookup_add {store : ClientStore} {window : UInt32} (state : ClientState)
    (h : ∀ c ∈ store.managed, c.window ≠ window) (r : ClientRef) :
    (store.add window state h).lookup r =
      (store.lookup r).or
        ([⟨⟨store.nextSerial, window⟩, state, true⟩].find? fun c : Client => c.ref == r) :=
  List.find?_append

/-- New states that are like the old ones make a twin, in which every reference stands for itself.
-/
theorem twins_mapLive (store : ClientStore) {alike : ClientState → ClientState → Prop}
    {f : Client → ClientState} (hf : ∀ c, alike c.state (f c)) :
    store.Twins .same alike (store.mapLive f) := by
  refine ⟨?_, ?_, fun _ _ => rfl⟩
  · rw [managed_mapLive, List.forall₂_map_right_iff, List.forall₂_same]
    exact fun c _ => ⟨rfl, hf c, rfl⟩
  · rintro r _ rfl
    rw [lookup_mapLive]
    cases store.lookup r with
    | none => exact .none
    | some c => exact .some ⟨rfl, hf c, rfl⟩

theorem twins_refl (store : ClientStore) {alike : ClientState → ClientState → Prop}
    (halike : ∀ state, alike state state) : store.Twins .same alike store := by
  have hself := store.twins_mapLive (f := (·.state)) fun c => halike c.state
  rwa [mapLive_self] at hself

namespace Twins

variable {p : Pairing} {alike : ClientState → ClientState → Prop} {store store' : ClientStore}

theorem isLive (h : store.Twins p alike store') {r r' : ClientRef} (hr : p.Pairs r r') :
    store.isLive r = store'.isLive r' := by
  rw [← lookup_isSome, ← lookup_isSome]
  exact isSome_eq_of_rel (h.lookup hr)

theorem find? (h : store.Twins p alike store') (window : UInt32) :
    Option.Rel (Client.Twins p alike) (store.find? window) (store'.find? window) :=
  rel_find? h.managed fun c c' hc => by rw [hc.window]

theorem mapLive (h : store.Twins p alike store') {f f' : Client → ClientState}
    (hf : ∀ c c', c.Twins p alike c' → alike (f c) (f' c')) :
    (store.mapLive f).Twins p alike (store'.mapLive f') := by
  have hrestated : ∀ c c', c.Twins p alike c' → (restated f c).Twins p alike (restated f' c') :=
    fun c c' hc => ⟨hc.ref, hf c c' hc, hc.managed⟩
  refine ⟨?_, fun hr => ?_, h.fresh⟩
  · rw [managed_mapLive, managed_mapLive]
    exact forall₂_map h.managed hrestated
  · rw [lookup_mapLive, lookup_mapLive]
    exact rel_map (h.lookup hr) hrestated

theorem keep (h : store.Twins p alike store') {q q' : Client → Bool}
    (hq : ∀ c c', c.Twins p alike c' → q c = q' c') :
    (store.keep q).Twins p alike (store'.keep q') := by
  refine ⟨?_, fun hr => ?_, h.fresh⟩
  · rw [managed_keep, managed_keep]
    exact forall₂_filter h.managed hq
  · rw [lookup_keep, lookup_keep]
    exact rel_optionFilter (h.lookup hr) hq

theorem unmanage (h : store.Twins p alike store') (window : UInt32) :
    (store.unmanage window).Twins p alike (store'.unmanage window) :=
  h.keep fun c c' hc => by rw [owns, owns, hc.managed, hc.window]

theorem add (h : store.Twins p alike store') {window : UInt32} {state : ClientState}
    (hstate : alike state state) (hwindow : ∀ c ∈ store.managed, c.window ≠ window)
    (hwindow' : ∀ c ∈ store'.managed, c.window ≠ window) :
    (store.add window state hwindow).Twins p alike (store'.add window state hwindow') := by
  have hnew : Client.Twins p alike ⟨⟨store.nextSerial, window⟩, state, true⟩
      ⟨⟨store'.nextSerial, window⟩, state, true⟩ := ⟨h.fresh 0 window, hstate, rfl⟩
  refine ⟨?_, fun {r r'} hr => ?_, fun n w => ?_⟩
  · rw [managed_add, managed_add]
    exact List.rel_append h.managed (.cons hnew .nil)
  · have hlast := rel_find? (p := fun c : Client => c.ref == r)
      (q := fun c : Client => c.ref == r') (.cons hnew .nil)
      fun c c' hc => Pairing.beq_eq hc.ref hr
    rw [lookup_add, lookup_add]
    exact rel_or (h.lookup hr) hlast
  · have hserial := h.fresh (n + 1) w
    rwa [Nat.add_comm n 1, ← Nat.add_assoc, ← Nat.add_assoc] at hserial

theorem manage (h : store.Twins p alike store') (window : UInt32) {state : ClientState}
    (hstate : alike state state) :
    (store.manage window state).2.Twins p alike (store'.manage window state).2 := by
  have hfind := h.find? window
  rw [ClientStore.manage, ClientStore.manage]
  split
  case h_1 c hsome =>
      split
      case h_1 => exact h
      case h_2 hnone =>
          rw [hsome, hnone] at hfind
          cases hfind
  case h_2 hnone =>
      split
      case h_1 c hsome =>
          rw [hsome, hnone] at hfind
          cases hfind
      case h_2 hnone' =>
          exact h.add hstate (find?_eq_none_iff.1 hnone) (find?_eq_none_iff.1 hnone')

end Twins

section Counterparts

/-- Two references stand for each other if they are those of managed clients at the same place, or
if they are equally far ahead of those that have been given out. -/
inductive Counterparts (store store' : ClientStore) : ClientRef → ClientRef → Prop
  | managed {r r' : ClientRef} (n : Nat) (left : (store.managed.map (·.ref))[n]? = some r)
      (right : (store'.managed.map (·.ref))[n]? = some r') : Counterparts store store' r r'
  | fresh (n : Nat) (window : UInt32) :
      Counterparts store store' ⟨store.nextSerial + n, window⟩ ⟨store'.nextSerial + n, window⟩

variable {store store' : ClientStore}

theorem Counterparts.swap {r r' : ClientRef} (h : Counterparts store store' r r') :
    Counterparts store' store r' r := by
  cases h with
  | managed n left right => exact .managed n right left
  | fresh n window => exact .fresh n window

theorem managed_refs_nodup (store : ClientStore) : (store.managed.map (·.ref)).Nodup := by
  refine List.Nodup.of_map ClientRef.window ?_
  rw [List.map_map]
  exact store.windows_distinct

theorem serial_lt_of_getElem? {n : Nat} {r : ClientRef}
    (h : (store.managed.map (·.ref))[n]? = some r) : r.serial < store.nextSerial := by
  obtain ⟨c, hc, rfl⟩ := List.mem_map.1 (List.mem_of_getElem? h)
  exact store.serials_below c (mem_live_of_mem_managed hc)

theorem rightUnique_counterparts (store store' : ClientStore) :
    Relator.RightUnique (Counterparts store store') := by
  intro r s t hs ht
  cases hs with
  | managed n left right =>
      cases ht with
      | managed m left' right' =>
          have hlt := (List.getElem?_eq_some_iff.1 left).1
          have hnm := (List.getElem?_inj hlt store.managed_refs_nodup).1 (left.trans left'.symm)
          rw [hnm] at right
          exact Option.some.inj (right.symm.trans right')
      | fresh m window =>
          have hlt := serial_lt_of_getElem? left
          exact absurd hlt (by simp)
  | fresh n window =>
      generalize hr : (⟨store.nextSerial + n, window⟩ : ClientRef) = r at ht
      cases ht with
      | managed m left right =>
          have hlt := serial_lt_of_getElem? left
          rw [← hr] at hlt
          exact absurd hlt (by simp)
      | fresh m window' =>
          simp only [ClientRef.mk.injEq, Nat.add_left_cancel_iff] at hr
          rw [hr.1, hr.2]

theorem lookup_fresh (store : ClientStore) (n : Nat) (window : UInt32) :
    store.lookup ⟨store.nextSerial + n, window⟩ = none := by
  refine Option.eq_none_iff_forall_ne_some.2 fun c hc => ?_
  obtain ⟨hlive, href⟩ := lookup_eq_some_iff.1 hc
  have hlt := store.serials_below c hlive
  rw [href] at hlt
  exact absurd hlt (by simp)

variable (h : store.specs = store'.specs)

include h

/-- Where the managed clients look the same, they have the same windows and states place by place.
-/
theorem spec_eq_of_getElem? {n : Nat} {c c' : Client} (hc : store.managed[n]? = some c)
    (hc' : store'.managed[n]? = some c') : c.spec = c'.spec := by
  have hspec : store.specs[n]? = some c.spec := by rw [specs, List.getElem?_map, hc]; rfl
  have hspec' : store'.specs[n]? = some c'.spec := by rw [specs, List.getElem?_map, hc']; rfl
  rw [h, hspec'] at hspec
  exact (Option.some.inj hspec).symm

omit h in
/-- The pairing of counterparts in two stores that look the same. -/
def counterparts (h : store.specs = store'.specs) : Pairing where
  Pairs := Counterparts store store'
  biUnique := ⟨fun _ _ _ hr hs => rightUnique_counterparts store' store hr.swap hs.swap,
    rightUnique_counterparts store store'⟩
  window_eq hr := by
    cases hr with
    | fresh n window => rfl
    | managed n left right =>
        rw [List.getElem?_map, Option.map_eq_some_iff] at left right
        obtain ⟨c, hc, rfl⟩ := left
        obtain ⟨c', hc', rfl⟩ := right
        exact congrArg ClientSpec.window (spec_eq_of_getElem? h hc hc')

theorem twins_of_getElem? {n : Nat} {c c' : Client} (hc : store.managed[n]? = some c)
    (hc' : store'.managed[n]? = some c') : c.Twins (counterparts h) Eq c' := by
  have hmanaged := (List.mem_filter.1 (List.mem_of_getElem? hc)).2
  have hmanaged' := (List.mem_filter.1 (List.mem_of_getElem? hc')).2
  refine ⟨.managed n ?_ ?_, congrArg ClientSpec.state (spec_eq_of_getElem? h hc hc'),
    hmanaged.trans hmanaged'.symm⟩
  · rw [List.getElem?_map, hc]
    rfl
  · rw [List.getElem?_map, hc']
    rfl

theorem twins_counterparts : store.Twins (counterparts h) Eq store' := by
  refine ⟨?_, fun {r r'} hr => ?_, fun n window => .fresh n window⟩
  · have hlength : store.managed.length = store'.managed.length := by
      have hspecs := congrArg List.length h
      simpa [specs] using hspecs
    refine List.forall₂_of_length_eq_of_get hlength fun n hn hn' => ?_
    exact twins_of_getElem? h (List.getElem?_eq_getElem hn) (List.getElem?_eq_getElem hn')
  · cases hr with
    | fresh n window =>
        rw [lookup_fresh, lookup_fresh]
        exact .none
    | managed n left right =>
        rw [List.getElem?_map, Option.map_eq_some_iff] at left right
        obtain ⟨c, hc, rfl⟩ := left
        obtain ⟨c', hc', rfl⟩ := right
        rw [lookup_ref (List.mem_of_getElem? hc),
          lookup_ref (List.mem_of_getElem? hc')]
        exact .some (twins_of_getElem? h hc hc')

end Counterparts

namespace Twins

variable {p : Pairing} {store store' : ClientStore}

/-- Twins of equal states look the same. -/
theorem specs_eq (h : store.Twins p Eq store') : store.specs = store'.specs := by
  refine map_eq_map_of_forall₂ h.managed fun c c' hc => ?_
  rw [Client.spec, Client.spec, p.window_eq hc.ref, hc.state]

end Twins

end ClientStore

end WindowActions
