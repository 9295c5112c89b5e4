import WindowActions.Pattern.Engine
import WindowActions.Proofs.Builtin.Underway

/-!
# An aborted session leaves no trace

The escape key, an abort and the shutdown of the engine take back all previews of a session, however
many there were and whatever came and went meanwhile. The focus is as it was before the first
preview, and nothing else of the clients was touched. The cycle remembers who had the focus by the
references of the clients, so a new client of a window that was managed before is not mistaken for
the old one.
-/

namespace WindowActions

variable {S : Type} [Seat S]

namespace CycleState

variable {store : ClientStore} {c : Client}

theorem lookup_collect (set : ClientSet) (hc : c ∈ store.managed) :
    (collect store set).focusBefore.lookup c.ref = some c.state.focused := by
  obtain ⟨front, behind, heq⟩ := List.append_of_mem hc
  have hnodup := store.managed_refs_nodup
  rw [heq, List.map_append, List.nodup_append] at hnodup
  refine List.lookup_eq_some_iff.2 ⟨front.map fun c => (c.ref, c.state.focused),
    behind.map fun c => (c.ref, c.state.focused), ?_, fun entry hentry => ?_⟩
  · simp [collect, heq]
  · obtain ⟨e, he, rfl⟩ := List.mem_map.1 hentry
    have hne := hnodup.2.2 e.ref (List.mem_map_of_mem he) c.ref (by simp)
    simpa using hne.symm

theorem lookup_collect_of_notMem (set : ClientSet) {r : ClientRef}
    (h : r ∉ store.managed.map (·.ref)) :
    (collect store set).focusBefore.lookup r = none := by
  refine List.lookup_eq_none_iff.2 fun entry hentry => ?_
  obtain ⟨e, he, rfl⟩ := List.mem_map.1 hentry
  have hne : r ≠ e.ref := fun heq => h (heq ▸ List.mem_map_of_mem he)
  simpa using hne

end CycleState

/-- The state of a client after a revert to what a cycle remembers. -/
def CycleState.reverted (state : CycleState) (c : Client) : ClientState :=
  if c.managed then { c.state with focused := (state.focusBefore.lookup c.ref).getD false }
  else c.state

theorem CycleState.focused_reverted (state : CycleState) {c : Client} (h : c.managed = true) :
    (state.reverted c).focused = (state.focusBefore.lookup c.ref).getD false := by
  rw [reverted, if_pos h]

theorem CycleState.reverted_of_not_managed (state : CycleState) {c : Client}
    (h : c.managed = false) : state.reverted c = c.state := by
  rw [reverted, h, if_neg Bool.false_ne_true]

theorem Cycle.clients_revert (slot : Nat) (d : Desktop) :
    (revert slot d).clients = d.clients.mapLive (d.cycles slot).reverted := rfl

/-- A revert changes nothing but the focus. -/
theorem Client.Twins.reverted {c c' : Client} (h : c.Twins .same ClientState.SameButFocus c')
    (state : CycleState) : c.state.SameButFocus (state.reverted c') := by
  have hstate : { c.state with focused := c'.state.focused } = c'.state := h.state
  rw [CycleState.reverted, ← hstate]
  split <;> rfl

namespace ClientStore

variable {before alone store : ClientStore} {set : ClientSet} {state : CycleState}
  {refs : List ClientRef}

/-- The clients that are managed in another store have the same focus as there, and all others do
not have it. -/
structure HasFocusOf (before store : ClientStore) : Prop where
  old : ∀ c ∈ store.managed, ∀ c₀ ∈ before.managed, c.ref = c₀.ref →
    c.state.focused = c₀.state.focused
  new : ∀ c ∈ store.managed, c.ref ∉ before.managed.map (·.ref) → c.state.focused = false

theorem hasFocusOf_reverted
    (hstate : state.focusBefore = (CycleState.collect before set).focusBefore) :
    before.HasFocusOf (store.mapLive state.reverted) := by
  constructor
  · intro c hc c₀ hc₀ href
    rw [managed_mapLive, List.mem_map] at hc
    obtain ⟨c, hc, rfl⟩ := hc
    have hlookup := CycleState.lookup_collect set hc₀
    rw [← hstate, ← href] at hlookup
    rw [state.focused_reverted (List.mem_filter.1 hc).2, hlookup, Option.getD_some]
  · intro c hc hnew
    rw [managed_mapLive, List.mem_map] at hc
    obtain ⟨c, hc, rfl⟩ := hc
    have hlookup := CycleState.lookup_collect_of_notMem set hnew
    rw [← hstate] at hlookup
    rw [state.focused_reverted (List.mem_filter.1 hc).2, hlookup, Option.getD_none]

theorem FocusMoved.twins_reverted (h : alone.FocusMoved refs store) (state : CycleState) :
    alone.Twins .same ClientState.SameButFocus (store.mapLive state.reverted) := by
  have htwins := h.twins.mapLive (f := (·.state)) fun c c' hc => hc.reverted state
  rwa [mapLive_self] at htwins

/-- Where nobody has come or gone, a revert takes back all that a session has done. -/
theorem FocusMoved.reverted_eq (h : alone.FocusMoved (before.managed.map (·.ref)) store)
    (hsame : alone = before)
    (hstate : state.focusBefore = (CycleState.collect before set).focusBefore) :
    store.mapLive state.reverted = before := by
  subst hsame
  have hlive := (List.forall₂_and_left _ _).2 ⟨fun c (hc : c ∈ alone.live) => hc, h.live⟩
  refine eq_of_live_eq ?_ h.nextSerial
  rw [live_mapLive, ← List.map_id alone.live]
  refine (map_eq_map_of_forall₂ hlive fun c c' ⟨hc, hmoved⟩ => ?_).symm
  have hmanaged : c.managed = c'.managed := hmoved.managed
  have href : c.ref = c'.ref := hmoved.ref
  have htwin : c.Twins .same ClientState.SameButFocus (restated state.reverted c') :=
    ⟨href, hmoved.toTwins.reverted state, hmanaged⟩
  refine (htwin.eq_of_focused_eq ?_).symm
  cases hm : c.managed with
  | true =>
      have hlookup := CycleState.lookup_collect set (List.mem_filter.2 ⟨hc, hm⟩)
      rw [← hstate, href] at hlookup
      rw [state.focused_reverted (hmanaged ▸ hm), hlookup, Option.getD_some]
  | false =>
      have hunknown : c.ref ∉ alone.managed.map (·.ref) := by
        intro hmem
        obtain ⟨e, he, heq⟩ := List.mem_map.1 hmem
        rw [eq_of_ref_eq (mem_live_of_mem_managed he) hc heq] at he
        rw [(List.mem_filter.1 he).2] at hm
        cases hm
      have hsame : state.reverted c' = c'.state :=
        state.reverted_of_not_managed (hmanaged.symm.trans hm)
      rw [restated, hsame]
      exact hmoved.focus hunknown

end ClientStore

/-- The call ends a session without a commit. -/
def Call.Aborts : Call → Prop
  | .run _ _ => False
  | .input event => event.IsEscape
  | .cancel | .shutdown => True

/-- Whatever aborts a session of a cycle reverts it. -/
theorem Underway.perform_abort {engine : Engine S} {round : Round} {alone : ClientStore} {k : Nat}
    (h : Underway round alone k engine.stage.session engine.stage.desktop) {ending : Call}
    (hending : ending.Aborts) :
    (engine.perform ending).stage.session = none ∧
      (engine.perform ending).stage.desktop.clients =
        engine.stage.desktop.clients.mapLive (round.cycle k).reverted := by
  obtain ⟨action, hcycle, hsession⟩ := h.session
  rw [← h.cycle, ← Cycle.clients_revert]
  have hcancel : engine.stage.cancel.desktop.clients =
      (Cycle.revert round.id engine.stage.desktop).clients := by
    rw [Stage.desktop_cancel, hsession, Desktop.abort, hcycle.behavior_eq]
    rfl
  cases ending with
  | run list trigger => exact absurd hending id
  | cancel | shutdown => exact ⟨engine.stage.session_cancel, hcancel⟩
  | input event =>
      obtain ⟨hnone, hd⟩ := Stage.input_isEscape hsession hcycle hending
      have hclients := congrArg Desktop.clients hd
      rw [Desktop.clients_setCycle] at hclients
      exact ⟨hnone, hclients⟩

namespace Engine

variable {cyclic : Nat → Prop} {id : Nat} {direction : Direction}

/-- A session of a cycle begins with modifiers held, lists of the same action run, keys are pressed
and clients come and go, and then the session is aborted. What is left of it all is what the
surroundings have done: the clients are those that would be there without the session and differ
in their focus at most. Those from before the session have the focus as they had it, and those that
have come since do not have it. If nobody has come or gone, then the clients are exactly those from
before the session. -/
theorem abort_restores {engine : Engine S} (hreached : engine.IsReached (Action.IsTame cyclic))
    (hother : ∀ session ∈ engine.stage.session, session.action.info.id ≠ id) {list : ActionList}
    (hlist : entriesOnly (Action.IsCycle id direction) list) {trigger : Trigger}
    (hheld : trigger.state ≠ 0) (hbegun : (engine.run list trigger).1 = true)
    {happenings : List (Happening (HostChange S))}
    (hgoes : ∀ happening ∈ happenings,
      happening.Continues (Action.IsCycle id direction) trigger.state)
    {ending : Call} (hending : ending.Aborts) :
    let before := engine.cancel.stage.desktop.clients
    let alone := happenings.foldl (fun store happening => happening.onClients store) before
    let final := ((engine.run list trigger).2.after HostChange.apply happenings).perform ending
    final.stage.isRunning = false ∧
      alone.Twins .same ClientState.SameButFocus final.stage.desktop.clients ∧
      before.HasFocusOf final.stage.desktop.clients ∧
      (alone = before → final.stage.desktop.clients = before) := by
  intro before alone final
  obtain ⟨action, chosen, -, hsome, hbegin⟩ := underway_begin hreached hother hlist hheld hbegun
  obtain ⟨k, -, -, hunder⟩ := underway_after hsome hbegin happenings hgoes
  obtain ⟨hnone, hclients⟩ := hunder.perform_abort hending
  have hstate := Round.focusBefore_cycle ⟨id, direction, trigger.state,
    .collect before chosen, engine.stage.journal.countP Signal.isPreview⟩ k
  have hmoved := hunder.clients
  rw [CycleState.known_collect] at hmoved
  have hidle : final.stage.isRunning = false := by
    rw [Stage.isRunning, hnone]
    rfl
  rw [hclients]
  exact ⟨hidle, hmoved.twins_reverted _, ClientStore.hasFocusOf_reverted hstate,
    fun hsame => hmoved.reverted_eq hsame hstate⟩

/-- A session of `NextWindow` that takes the place of one of `PreviousWindow`, while a focused
client comes and the client that is previewed first goes. -/
theorem abort_restores_newcomer :
    let clients : ClientStore := .ofSpecs [⟨1, { focused := true }⟩, ⟨2, {}⟩, ⟨3, {}⟩]
    let history : List (Happening (HostChange HeadlessSeat)) :=
      [.call (.run [.action (.previousWindow 5)] { state := 8 })]
    let engine := Engine.after HostChange.apply ⟨.builtin, { seat := {}, desktop := { clients } }⟩
      history
    let list : ActionList := [.action (.nextWindow 4)]
    let trigger : Trigger := { state := 8 }
    let happenings : List (Happening (HostChange HeadlessSeat)) :=
      [.host (.manage 4 { focused := true }), .call (.run list { state := 1 }),
        .host (.unmanage 2), .call (.input ⟨.keyRelease, 64, 8⟩)]
    let ending := Call.input ⟨.keyPress, 9, 8⟩
    engine.stage.isRunning = true ∧ (engine.run list trigger).1 = true ∧
    (let before := engine.cancel.stage.desktop.clients
      let alone := happenings.foldl (fun store happening => happening.onClients store) before
      let final := ((engine.run list trigger).2.after HostChange.apply happenings).perform ending
      final.stage.isRunning = false ∧
        alone.Twins .same ClientState.SameButFocus final.stage.desktop.clients ∧
        before.HasFocusOf final.stage.desktop.clients ∧
        (alone = before → final.stage.desktop.clients = before)) := by
  intro clients history engine list trigger happenings ending
  have hreached : engine.IsReached (Action.IsTame fun _ => True) := by
    refine ⟨.builtin, {}, clients, history, ?_, rfl⟩
    simpa [history, Happening.Only, entriesOnly, Entry.Only] using
      (Action.isBuiltin_previousWindow 5).isTame
  have hlist : entriesOnly (Action.IsCycle 4 .forward) list :=
    ⟨Action.isCycle_nextWindow 4, trivial⟩
  have hgoes : ∀ happening ∈ happenings,
      happening.Continues (Action.IsCycle 4 .forward) trigger.state := by
    simp [happenings, Happening.Continues, hlist, HostChange.KeepsStates, InputEvent.IsEscape,
      InputEvent.Releases, trigger]
  have hsession : engine.stage.session = some ⟨.previousWindow 5, 8⟩ := rfl
  have hother : ∀ session ∈ engine.stage.session, session.action.info.id ≠ 4 := by
    rw [hsession]
    rintro session ⟨⟩
    decide
  have hbegun : (engine.run list trigger).1 = true := by decide
  exact ⟨by decide, hbegun,
    abort_restores hreached hother hlist (by decide) hbegun hgoes ⟨rfl, rfl⟩⟩

end Engine

end WindowActions
