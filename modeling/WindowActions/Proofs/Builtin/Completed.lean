import WindowActions.Pattern.Engine
import WindowActions.Proofs.Builtin.Memory
import WindowActions.Proofs.Builtin.Underway

/-!
# What a commit leaves behind

The end of a session by a commit should leave the focus on one of its candidates. The previews have
taken it from every other client, so there is nobody else to keep it. A commit looks only at the
candidate under the cursor, though, and candidates may go at any time. If that one is gone nothing
happens: then the focus stays where the last preview has put it, or is lost if that client is gone,
too. `Engine.commit_settles_iff` says exactly when all is well, and `Engine.focus_lost` that a
candidate which is still there does not suffice.
-/

namespace WindowActions

variable {S : Type} [Seat S]

namespace ClientStore

variable {store : ClientStore} {r s : ClientRef}

/-- Of the managed clients exactly `r` has the focus, and it is not an icon. -/
structure FocusSettled (store : ClientStore) (r : ClientRef) : Prop where
  managed : ∃ c ∈ store.managed, c.ref = r ∧ c.state.iconic = false
  focused : ∀ c ∈ store.managed, c.state.focused = true ↔ c.ref = r

instance (store : ClientStore) (r : ClientRef) : Decidable (store.FocusSettled r) :=
  decidable_of_iff ((∃ c ∈ store.managed, c.ref = r ∧ c.state.iconic = false) ∧
    ∀ c ∈ store.managed, c.state.focused = true ↔ c.ref = r)
    ⟨fun h => ⟨h.1, h.2⟩, fun h => ⟨h.managed, h.focused⟩⟩

theorem settled_focus (hr : r ∈ store.managed.map (·.ref)) : (store.focus r).FocusSettled r := by
  obtain ⟨c, hc, rfl⟩ := List.mem_map.1 hr
  rw [focus_eq]
  constructor
  · rw [managed_mapLive]
    exact ⟨_, List.mem_map_of_mem hc, rfl, by simp [refocused]⟩
  · intro e he
    rw [managed_mapLive, List.mem_map] at he
    obtain ⟨e, he, rfl⟩ := he
    simp [refocused, (List.mem_filter.1 he).2]

/-- The focus on a client that is not managed is the focus on nobody. -/
theorem not_settled_focus (hr : r ∉ store.managed.map (·.ref)) :
    ¬ (store.focus r).FocusSettled s := by
  intro h
  obtain ⟨c, hc, hcs, -⟩ := h.managed
  have hfocused := (h.focused c hc).2 hcs
  rw [focus_eq, managed_mapLive, List.mem_map] at hc
  obtain ⟨c, hc, rfl⟩ := hc
  simp only [refocused, (List.mem_filter.1 hc).2, if_true, beq_iff_eq] at hfocused
  exact hr (hfocused ▸ List.mem_map_of_mem hc)

/-- One of the clients in `refs` has the focus for good. -/
def FocusSettledAmong (store : ClientStore) (refs : List ClientRef) : Prop :=
  ∃ r ∈ refs, store.FocusSettled r

instance (store : ClientStore) (refs : List ClientRef) : Decidable (store.FocusSettledAmong refs) :=
  inferInstanceAs (Decidable (∃ r ∈ refs, store.FocusSettled r))

/-- The focus is settled among `refs` after it has been given to `r`, one of them, unless that is
gone. -/
theorem settledAmong_iff {refs : List ClientRef} {store' : ClientStore} (hmem : r ∈ refs)
    (hlive : store.isLive r = true → store' = store.focus r)
    (hgone : store.isLive r = false → store' = store) :
    store'.FocusSettledAmong refs ↔
      r ∈ store.managed.map (·.ref) ∨
        store.isLive r = false ∧ store.FocusSettledAmong refs := by
  by_cases hmanaged : r ∈ store.managed.map (·.ref)
  · obtain ⟨c, hc, rfl⟩ := List.mem_map.1 hmanaged
    rw [hlive (isLive_ref hc)]
    exact iff_of_true ⟨c.ref, hmem, settled_focus hmanaged⟩ (Or.inl hmanaged)
  · rw [or_iff_right hmanaged]
    cases h : store.isLive r with
    | true =>
        rw [hlive h]
        exact iff_of_false (fun ⟨s, _, hs⟩ => not_settled_focus hmanaged hs) (by simp)
    | false =>
        rw [hgone h]
        exact (and_iff_right rfl).symm

end ClientStore

namespace Cycle

variable {slot : Nat} {direction : Direction} {d : Desktop} {r : ClientRef}

theorem clients_commit_of_isLive (htarget : (d.cycles slot).target? = some r)
    (hlive : d.clients.isLive r = true) : (commit slot d).clients = d.clients.focus r := by
  simp [commit, htarget, hlive, Desktop.withClients]

theorem settledAmong_commit (htarget : (d.cycles slot).target? = some r) :
    (commit slot d).clients.FocusSettledAmong (d.cycles slot).candidates ↔
      r ∈ d.clients.managed.map (·.ref) ∨
        d.clients.isLive r = false ∧ d.clients.FocusSettledAmong (d.cycles slot).candidates := by
  refine ClientStore.settledAmong_iff (target?_mem htarget) (clients_commit_of_isLive htarget)
    fun hgone => ?_
  simp [commit, htarget, hgone]

/-- The move before a commit does not change what the commit depends on. -/
theorem settledAmong_commit_move
    (htarget : ((d.cycles slot).moved direction).target? = some r) :
    (commit slot (move slot direction d)).clients.FocusSettledAmong (d.cycles slot).candidates ↔
      r ∈ d.clients.managed.map (·.ref) ∨
        d.clients.isLive r = false ∧ d.clients.FocusSettledAmong (d.cycles slot).candidates := by
  have hcycle : (move slot direction d).cycles slot = (d.cycles slot).moved direction := by
    rw [cycles_move, Desktop.setCycle_same]
  have hcommit := settledAmong_commit (d := move slot direction d) (hcycle ▸ htarget)
  rw [hcycle, CycleState.candidates_moved] at hcommit
  rw [hcommit]
  cases hlive : d.clients.isLive r with
  | true =>
      rw [clients_move_of_isLive htarget hlive, ClientStore.managed_refs_preview,
        ClientStore.preview_eq, ClientStore.isLive_mapLive, hlive]
      simp
  | false =>
      have hsame : (move slot direction d).clients = d.clients := by simp [move, htarget, hlive]
      rw [hsame, hlive]

end Cycle

/-- An action was run. -/
def Signal.isRun : Signal → Bool
  | .ran .. => true
  | _ => false

section Turns

variable {action : Action} {set : Option ClientSet} {data : ActionData} {after : Option Session}
  {started : Bool} {new : List Signal} {id : Nat} {direction : Direction}

theorem Turn.countP_isRun_same {session : Session}
    (h : Turn action set data (some session) started new after)
    (hcycle : action.IsCycle id direction) (hsame : session.action.info.id = id) :
    new.countP Signal.isRun = 1 := by
  have hother : ¬ ∀ s ∈ some session, s.action.info.id ≠ action.info.id :=
    fun h => h session rfl (hsame.trans hcycle.id_eq.symm)
  cases h with
  | aside | continued | finished => rfl
  | declined _ other | refused _ other | opened _ other | fruitless _ other =>
      exact absurd other hother

/-- A cycle that does not get to run without a session leaves the clients alone. -/
theorem Turn.idle {world world' : World S} (h : Turn action set data none started new after)
    (hcycle : action.IsCycle id direction) (hw : replay? new world = some world')
    (hnot : new.countP Signal.isRun = 0) : after = none ∧ world'.2.clients = world.2.clients := by
  have hpre : (action.behavior.pre data.state data world.2).2.clients = world.2.clients := by
    rw [hcycle.behavior_eq]
    rfl
  cases h with
  | aside plain =>
      rw [hcycle.interactive] at plain
      cases plain
  | declined =>
      simp only [abortSignals, List.nil_append, replay?_cons_eq_some, replay?_nil,
        Option.some.injEq] at hw
      obtain ⟨-, rfl⟩ := hw
      exact ⟨rfl, hpre⟩
  | refused =>
      simp only [abortSignals, List.nil_append, replay?_cons_eq_some, replay?_nil,
        Option.some.injEq] at hw
      obtain ⟨-, -, rfl⟩ := hw
      exact ⟨rfl, hpre⟩
  | opened | fruitless => cases hnot

end Turns

/-- The stage after a commit of a cycle: the session is over. Exactly one managed client has the
focus, it is a candidate and it is not an icon, if and only if the candidate under the cursor was
managed, or it was gone and the focus was like that before. -/
structure Stage.HasCommitted (cycle : CycleState) (before : ClientStore) (stage : Stage S) :
    Prop where
  idle : stage.isRunning = false
  settles : ∃ r, cycle.target? = some r ∧
    (stage.desktop.clients.FocusSettledAmong cycle.candidates ↔
      r ∈ before.managed.map (·.ref) ∨
        before.isLive r = false ∧ before.FocusSettledAmong cycle.candidates)

namespace Engine

/-- Until a cycle runs without modifiers in its session nothing has happened, and when it has run
once, then it has moved on and committed. -/
theorem takeover_run (start : Stage S) {session : Session} {id : Nat} {direction : Direction}
    (hsame : session.action.info.id = id)
    (hsome : (start.desktop.cycles id).candidates ≠ []) (data : ActionData)
    (hfree : data.state = 0) :
    RunInvariant (Action.IsCycle id direction) (fun _ => True) data
      fun (_ : Bool) (stage : Stage S) => ∃ new, stage.journal = start.journal ++ new ∧
        (new.countP Signal.isRun = 0 →
          stage.session = some session ∧ stage.desktop = start.desktop) ∧
        (new.countP Signal.isRun = 1 → stage.session = none ∧
          stage.desktop.clients =
            (Cycle.commit id (Cycle.move id direction start.desktop)).clients) where
  tested stage isMatch h := by
    obtain ⟨new, hjournal, hnone, hone⟩ := h
    refine ⟨new ++ [.tested isMatch], ?_, ?_⟩
    · rw [Stage.signal, hjournal, List.append_assoc]
    · rw [List.countP_append]
      exact ⟨hnone, hone⟩
  selected _ _ _ _ _ _ := trivial
  turned stage incoming action h _ hcycle := by
    obtain ⟨new, hjournal, hnone, hone⟩ := h
    obtain ⟨more, hw, hturn⟩ := stage.runAction_turn action incoming data
    refine ⟨new ++ more, by rw [hw.journal, hjournal, List.append_assoc], ?_⟩
    rw [List.countP_append]
    rcases hcount : new.countP Signal.isRun with _ | _ | n
    · obtain ⟨hkept, hd⟩ := hnone hcount
      have hdeed := stage.runAction_deed action incoming data
      rw [hkept] at hturn hdeed
      rw [hturn.countP_isRun_same hcycle hsame]
      refine ⟨by simp, fun _ => ?_⟩
      rcases hdeed.cycle_same hcycle hsame (hd ▸ hsome) with ⟨hheld, -⟩ | ⟨-, -, hended, hd'⟩
      · exact absurd hfree hheld
      · rw [hd', hd]
        exact ⟨hended, rfl⟩
    · obtain ⟨hidle, hclients⟩ := hone hcount
      rw [hidle] at hturn
      refine ⟨by simp, fun htotal => ?_⟩
      have hquiet := hturn.idle hcycle hw.world (by omega)
      exact ⟨hquiet.1, hquiet.2.trans hclients⟩
    · exact ⟨fun htotal => by omega, fun htotal => by omega⟩

/-- An engine of builtin actions has the cycle of its session only, and the cursor of that is on a
candidate. -/
theorem IsReached.lively {engine : Engine S} (h : engine.IsReached Action.IsBuiltin) :
    Tidy (fun _ => True) engine.stage.session engine.stage.desktop ∧
      Lively engine.stage.session engine.stage.desktop := by
  obtain ⟨vocabulary, seat, clients, happenings, hbuiltin, rfl⟩ := h
  have hstart : Tidy (fun _ => True) none ({ clients } : Desktop) ∧ Lively none { clients } :=
    ⟨fun _ => rfl, .none _⟩
  refine after_induct_of (P := fun engine : Engine S =>
    Tidy (fun _ => True) engine.stage.session engine.stage.desktop ∧
      Lively engine.stage.session engine.stage.desktop) (fun engine happening hbuiltin h => ?_)
    ⟨vocabulary, { seat, desktop := { clients } }⟩ hstart happenings hbuiltin
  have htame := hbuiltin.mono fun action => Action.IsBuiltin.isTame
  exact ⟨tidy_happen engine happening htame h.1, lively_happen engine happening h.1 h.2 hbuiltin⟩

/-- A session of a cycle ends by a commit: by the release of a key after which none of its initial
modifiers is held, or by a run of the action without modifiers. It does not matter what has happened
in the session. -/
theorem commit_settles_iff {engine : Engine S} (hreached : engine.IsReached Action.IsBuiltin)
    {session : Session} (hsession : engine.stage.session = some session) :
    let cycle := engine.stage.desktop.cycles session.action.info.id
    (∀ event : InputEvent, event.Releases session.initialState →
      (engine.input event).2.stage.HasCommitted cycle engine.stage.desktop.clients) ∧
    ∀ direction list (trigger : Trigger),
      entriesOnly (Action.IsCycle session.action.info.id direction) list → trigger.state = 0 →
      let final := (engine.run list trigger).2.stage
      (final.journal.drop engine.stage.journal.length).countP Signal.isRun = 1 →
      final.HasCommitted (cycle.moved direction) engine.stage.desktop.clients := by
  intro cycle
  obtain ⟨htidy, hlively⟩ := hreached.lively
  rw [hsession] at htidy hlively
  obtain ⟨n, hcursor, hlt⟩ := hlively session rfl
  have hsome : cycle.candidates ≠ [] := List.ne_nil_of_length_pos (Nat.zero_lt_of_lt hlt)
  constructor
  · intro event hevent
    obtain ⟨direction, hbehavior⟩ := htidy.1.cycle htidy.2.1 trivial
    obtain ⟨hended, hd⟩ := Stage.input_releases hsession ⟨rfl, htidy.2.1, hbehavior⟩ hevent
    have htarget : cycle.target? = some cycle.candidates[n] := by
      rw [CycleState.target?, hcursor]
      exact List.getElem?_eq_getElem hlt
    have hclients := congrArg Desktop.clients hd
    rw [Desktop.clients_setCycle] at hclients
    refine ⟨congrArg Option.isSome hended, _, htarget, ?_⟩
    rw [show (engine.input event).2.stage.desktop.clients = _ from hclients]
    exact Cycle.settledAmong_commit htarget
  · intro direction list trigger hlist hfree final hone
    obtain ⟨r, -, htarget⟩ := CycleState.target?_moved direction hsome
    obtain ⟨new, hjournal, -, hran⟩ := (takeover_run engine.stage rfl hsome
      (trigger.data engine.stage) hfree).runList
      ⟨[], (List.append_nil _).symm, fun _ => ⟨hsession, rfl⟩, by simp⟩ trivial hlist
    rw [show final.journal = engine.stage.journal ++ new from hjournal, List.drop_left] at hone
    obtain ⟨hended, hclients⟩ := hran hone
    refine ⟨congrArg Option.isSome hended, r, htarget, ?_⟩
    rw [show final.desktop.clients = _ from hclients]
    exact Cycle.settledAmong_commit_move htarget

/-- The icon 2 is previewed and client 3 goes. The release of the key settles the focus on 2. A run
without modifiers moves on to 3 and so does not. -/
theorem commit_settles_icon :
    let clients : ClientStore := .ofSpecs
      [⟨1, { focused := true }⟩, ⟨2, { iconic := true }⟩, ⟨3, {}⟩]
    let list : ActionList := [.action (.nextWindow 4)]
    let history : List (Happening (HostChange HeadlessSeat)) :=
      [.call (.run list { state := 8 }), .host (.unmanage 3)]
    let engine := Engine.after HostChange.apply ⟨.builtin, { seat := {}, desktop := { clients } }⟩
      history
    let candidates := (engine.stage.desktop.cycles 4).candidates
    let released := (engine.input ⟨.keyRelease, 64, 0⟩).2.stage
    let taken := (engine.run list {}).2.stage
    engine.stage.isRunning = true ∧
    (released.isRunning = false ∧ released.desktop.clients.FocusSettledAmong candidates) ∧
    taken.isRunning = false ∧ ¬ taken.desktop.clients.FocusSettledAmong candidates := by
  intro clients list history engine candidates released taken
  have hreached : engine.IsReached Action.IsBuiltin := by
    refine ⟨.builtin, {}, clients, history, ?_, rfl⟩
    simp [history, list, Happening.Only, entriesOnly, Entry.Only, Action.isBuiltin_nextWindow]
  have hsession : engine.stage.session = some ⟨.nextWindow 4, 8⟩ := rfl
  have hboth := commit_settles_iff hreached hsession
  have hreleased := hboth.1 ⟨.keyRelease, 64, 0⟩ (by decide)
  have htaken := hboth.2 .forward list {} ⟨Action.isCycle_nextWindow 4, trivial⟩ rfl (by decide)
  obtain ⟨r, hr, hsettles⟩ := hreleased.settles
  obtain ⟨s, hs, hlost⟩ := htaken.settles
  have hr : r = ⟨1, 2⟩ := Option.some.inj (hr.symm.trans (by decide))
  have hs : s = ⟨2, 3⟩ := Option.some.inj (hs.symm.trans (by decide))
  exact ⟨by decide, ⟨hreleased.idle, hsettles.2 (hr ▸ by decide)⟩, htaken.idle,
    fun h => absurd (hlost.1 h) (hs ▸ by decide)⟩

/-- A candidate that is still managed is not enough. Here client 2 is previewed and goes, and its
commit leaves nobody with the focus though candidate 1 is there. -/
theorem focus_lost :
    ¬ ∀ (clients : ClientStore) (happenings : List (Happening (HostChange HeadlessSeat))),
      (∀ happening ∈ happenings, happening.Continues (Action.IsCycle 4 .forward) 8) →
      let engine := Engine.after HostChange.apply
        ⟨.builtin, { seat := {}, desktop := { clients } }⟩ happenings
      let candidates := (engine.stage.desktop.cycles 4).candidates
      engine.stage.isRunning = true →
      (∃ r ∈ candidates, r ∈ engine.stage.desktop.clients.managed.map (·.ref)) →
      ∀ event : InputEvent, event.Releases 8 →
        (engine.input event).2.stage.desktop.clients.FocusSettledAmong candidates := by
  intro h
  have hsettled := h (.ofSpecs [⟨1, { focused := true }⟩, ⟨2, {}⟩])
    [.call (.run [.action (.nextWindow 4)] { state := 8 }), .host (.unmanage 2)]
    (by simp [Happening.Continues, entriesOnly, Entry.Only, Action.isCycle_nextWindow,
      HostChange.KeepsStates])
    (by decide) (by decide) ⟨.keyRelease, 64, 0⟩ (by decide)
  revert hsettled
  decide

end Engine

end WindowActions
