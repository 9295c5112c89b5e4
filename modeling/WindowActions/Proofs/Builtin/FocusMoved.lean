import WindowActions.Proofs.Builtin.Filters

/-!
# Where only the focus has moved

A preview looks like the real thing to everybody else, but of the clients it changes the focus only,
and only of those that the cycle knows. `ClientStore.FocusMoved` says this of two stores: client by
client they are the same, but some clients may have another focus, if their references are in
`refs`. What the surroundings do to both stores alike does not bring them any further apart.
-/

namespace WindowActions

/-- The same client, which may have another focus if it is one of `refs`. -/
structure Client.FocusMoved (refs : List ClientRef) (c c' : Client) : Prop
    extends c.Twins .same ClientState.SameButFocus c' where
  focus : c.ref ∉ refs → c'.state.focused = c.state.focused

theorem Client.FocusMoved.refl (refs : List ClientRef) (c : Client) : c.FocusMoved refs c :=
  ⟨⟨rfl, rfl, rfl⟩, fun _ => rfl⟩

/-- A client that is the same but for the focus, and has the same focus, is the same. -/
theorem Client.Twins.eq_of_focused_eq {c c' : Client}
    (h : c.Twins .same ClientState.SameButFocus c')
    (hfocus : c'.state.focused = c.state.focused) : c' = c := by
  have href : c.ref = c'.ref := h.ref
  have hstate : { c.state with focused := c'.state.focused } = c'.state := h.state
  rw [hfocus] at hstate
  cases c
  cases c'
  cases href
  cases hstate
  cases h.managed
  rfl

namespace ClientStore

/-- The same clients, of which those in `refs` may have another focus. -/
structure FocusMoved (refs : List ClientRef) (store store' : ClientStore) : Prop where
  live : List.Forall₂ (Client.FocusMoved refs) store.live store'.live
  nextSerial : store'.nextSerial = store.nextSerial

theorem eq_of_live_eq {store store' : ClientStore} (hlive : store'.live = store.live)
    (hserial : store'.nextSerial = store.nextSerial) : store' = store := by
  cases store
  cases store'
  cases hlive
  cases hserial
  rfl

namespace FocusMoved

variable {refs : List ClientRef} {store store' : ClientStore}

theorem refl (refs : List ClientRef) (store : ClientStore) : store.FocusMoved refs store :=
  ⟨List.forall₂_same.2 fun c _ => .refl refs c, rfl⟩

theorem twins (h : store.FocusMoved refs store') :
    store.Twins .same ClientState.SameButFocus store' := by
  have hlive := h.live.imp fun _ _ hc => hc.toTwins
  refine ⟨forall₂_filter hlive fun _ _ hc => hc.managed,
    fun hr => rel_find? hlive fun _ _ hc => Pairing.beq_eq hc.ref hr, fun n window => ?_⟩
  rw [h.nextSerial]
  rfl

/-- Another focus for some of `refs` in the second store. -/
theorem mapLive (h : store.FocusMoved refs store') {f : Client → ClientState}
    (hf : ∀ c : Client, c.state.SameButFocus (f c))
    (hfocus : ∀ c : Client, c.ref ∉ refs → (f c).focused = c.state.focused) :
    store.FocusMoved refs (store'.mapLive f) := by
  refine ⟨List.forall₂_map_right_iff.2 (h.live.imp fun c c' hc => ?_), h.nextSerial⟩
  have hrefs : c.ref = c'.ref := hc.ref
  have hstate : { c.state with focused := c'.state.focused } = c'.state := hc.state
  refine ⟨⟨hc.ref, ?_, hc.managed⟩, fun hnot => ?_⟩
  · have hnew : { c'.state with focused := (f c').focused } = f c' := hf c'
    rw [← hstate] at hnew
    exact hnew
  · rw [hrefs] at hnot
    exact (hfocus c' hnot).trans (hc.focus (hrefs ▸ hnot))

theorem keep (h : store.FocusMoved refs store') {q : Client → Bool}
    (hq : ∀ c c', c.FocusMoved refs c' → q c = q c') :
    (store.keep q).FocusMoved refs (store'.keep q) :=
  ⟨forall₂_filter h.live hq, h.nextSerial⟩

theorem unmanage (h : store.FocusMoved refs store') (window : UInt32) :
    (store.unmanage window).FocusMoved refs (store'.unmanage window) :=
  h.keep fun c c' hc => by rw [owns, owns, hc.managed, hc.window]

theorem release (h : store.FocusMoved refs store') (r : ClientRef) :
    (store.release r).FocusMoved refs (store'.release r) :=
  h.keep fun c c' hc => by rw [hc.managed, show c.ref = c'.ref from hc.ref]

theorem retire (h : store.FocusMoved refs store') (window : UInt32) :
    (store.retire window).FocusMoved refs (store'.retire window) := by
  refine ⟨forall₂_map h.live fun c c' hc => ?_, h.nextSerial⟩
  have howns : owns window c = owns window c' := by rw [owns, owns, hc.managed, hc.window]
  rw [retired, retired, howns]
  split
  · exact ⟨⟨hc.ref, hc.state, rfl⟩, hc.focus⟩
  · exact hc

theorem manage (h : store.FocusMoved refs store') (window : UInt32) (state : ClientState) :
    (store.manage window state).2.FocusMoved refs (store'.manage window state).2 := by
  have hfind := h.twins.find? window
  rw [ClientStore.manage, ClientStore.manage]
  split
  case h_1 c hsome =>
      split
      case h_1 => exact h
      case h_2 hnone =>
          rw [hsome, hnone] at hfind
          cases hfind
  case h_2 hnone =>
      split
      case h_1 c hsome =>
          rw [hsome, hnone] at hfind
          cases hfind
      case h_2 hnone' =>
          have hnew : List.Forall₂ (Client.FocusMoved refs)
              [⟨⟨store.nextSerial, window⟩, state, true⟩]
              [⟨⟨store'.nextSerial, window⟩, state, true⟩] := by
            rw [h.nextSerial]
            exact .cons (.refl refs _) .nil
          exact ⟨List.rel_append h.live hnew, congrArg (· + 1) h.nextSerial⟩

end FocusMoved

end ClientStore

end WindowActions
