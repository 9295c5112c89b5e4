import WindowActions.Cli
import WindowActions.Proofs.Builtin.Completed

/-!
# Running without held modifiers

A list that runs while no modifiers are held is carried out at once. Its cycle actions do open a
session and grab the keyboard, but they commit the first preview, and the session is over before the
next entry runs. So each entry finds the seat, the cycles and the place of the session as they were
before the list, and nothing is left over from it that an abort could take back.

`EntriesDone` says what becomes of the desktop and what is written to the journal, without a word
about sessions and cycles. It is a relation of its own, along the entries of a list and of the
branches that are chosen in it: no entry is passed over. What a cycle action comes to is a single
move of the focus, to the client that `ClientSet.next?` names.
-/

namespace WindowActions

namespace ClientSet

/-- The clients that a cycle visits: those of the set that have not been asked to close. -/
def candidates (set : ClientSet) (store : ClientStore) : List Client :=
  (set.clients store).filter fun c => !c.state.closed

/-- The candidate behind the focused one in a direction, or the first one in that direction if none
of them is focused. -/
def next? (set : ClientSet) (direction : Direction) (store : ClientStore) : Option Client :=
  let candidates := set.candidates store
  candidates[direction.next candidates.length (candidates.findIdx? (·.state.focused))]?

variable {set : ClientSet} {direction : Direction} {store : ClientStore} {c : Client}

theorem next?_eq_none_iff : set.next? direction store = none ↔ set.candidates store = [] := by
  rw [next?, List.getElem?_eq_none_iff]
  constructor
  · intro hle
    by_contra hsome
    have hlt := direction.next_lt (List.length_pos_iff.2 hsome)
      ((set.candidates store).findIdx? (·.state.focused))
    omega
  · intro hnone
    rw [hnone]
    exact Nat.zero_le _

theorem mem_candidates_of_next? (h : set.next? direction store = Option.some c) :
    c ∈ set.candidates store :=
  List.mem_of_getElem? h

theorem mem_clients_of_next? (h : set.next? direction store = Option.some c) :
    c ∈ set.clients store :=
  (List.mem_filter.1 (mem_candidates_of_next? h)).1

theorem candidates_collect (set : ClientSet) (store : ClientStore) :
    (CycleState.collect store set).candidates = (set.candidates store).map (·.ref) := rfl

/-- A cycle that begins moves to the next candidate. -/
theorem target?_collect (set : ClientSet) (direction : Direction) (store : ClientStore) :
    ((CycleState.collect store set).moved direction).target? =
      (set.next? direction store).map (·.ref) := by
  rw [CycleState.target?, CycleState.moved, next?]
  simp only [Option.bind_some, candidates_collect, List.length_map, List.getElem?_map]
  rfl

end ClientSet

/-- A preview among the managed clients makes no difference to a focus for good. -/
theorem ClientStore.focus_preview (store : ClientStore) (r : ClientRef) :
    (store.preview (store.managed.map (·.ref)) r).focus r = store.focus r := by
  rw [preview_eq, focus_eq, focus_eq, mapLive_mapLive]
  refine eq_of_live_eq (List.map_congr_left fun c hc => ?_) rfl
  refine congrArg (Client.mk c.ref · c.managed) ?_
  show refocused r (restated (previewed (store.managed.map (·.ref)) r) c) = refocused r c
  by_cases hmem : c.ref ∈ store.managed.map (·.ref)
  · obtain ⟨e, he, href⟩ := List.mem_map.1 hmem
    obtain rfl := eq_of_ref_eq (mem_live_of_mem_managed he) hc href
    have hmanaged := (List.mem_filter.1 he).2
    simp [refocused, previewed, hmem, hmanaged]
  · simp [refocused, previewed, hmem]

theorem Desktop.setCycle_self {d : Desktop} {slot : Nat} {state : CycleState}
    (h : d.cycles slot = state) : d.setCycle slot state = d := by
  have hcycles : (d.setCycle slot state).cycles = d.cycles := by
    funext n
    by_cases hn : n = slot
    · rw [hn, setCycle_same, h]
    · exact d.setCycle_other hn state
  show { d with cycles := (d.setCycle slot state).cycles } = d
  rw [hcycles]

theorem Desktop.setCycle_withClients (d : Desktop) (f : ClientStore → ClientStore) (slot : Nat)
    (state : CycleState) :
    (d.withClients f).setCycle slot state = (d.setCycle slot state).withClients f := rfl

theorem Desktop.setCycle_setCycle (d : Desktop) (slot : Nat) (state state' : CycleState) :
    (d.setCycle slot state).setCycle slot state' = d.setCycle slot state' := by
  have hcycles : ((d.setCycle slot state).setCycle slot state').cycles =
      (d.setCycle slot state').cycles := by
    funext n
    by_cases hn : n = slot
    · rw [hn, setCycle_same, setCycle_same]
    · rw [setCycle_other _ hn, setCycle_other _ hn, setCycle_other _ hn]
  show { d with cycles := ((d.setCycle slot state).setCycle slot state').cycles } = _
  rw [hcycles]
  rfl

namespace Cycle

variable {slot : Nat} {direction : Direction} {d : Desktop} {data : ActionData} {r : ClientRef}

theorem commit_move_of_isLive (htarget : ((d.cycles slot).moved direction).target? = some r)
    (hlive : d.clients.isLive r = true) :
    commit slot (move slot direction d) =
      (d.setCycle slot ((d.cycles slot).moved direction)).withClients fun store =>
        (store.preview (d.cycles slot).known r).focus r := by
  have hmove : move slot direction d =
      (d.setCycle slot ((d.cycles slot).moved direction)).withClients
        (·.preview (d.cycles slot).known r) := by
    simp [move, htarget, hlive]
  have hcycle : (move slot direction d).cycles slot = (d.cycles slot).moved direction := by
    rw [cycles_move, Desktop.setCycle_same]
  have hlive' : (move slot direction d).clients.isLive r = true := by
    rw [clients_move_of_isLive htarget hlive]
    exact (ClientStore.isLive_mapLive _ _ r).trans hlive
  simp only [commit, hcycle, htarget, hlive', if_true]
  rw [hmove]
  rfl

/-- A run that begins a cycle without held modifiers gives the focus to the next candidate, and then
the cycle might as well not have begun. -/
theorem run_immediate (hempty : d.cycles slot = {}) (hfree : data.state = 0)
    (direction : Direction) (set : ClientSet) :
    ∃ d', run slot direction (some set) data d = (false, d') ∧
      d'.setCycle slot {} =
        match set.next? direction d.clients with
        | some c => d.withClients (·.focus c.ref)
        | none => d := by
  have hfresh : (d.cycles slot).candidates.isEmpty = true := by rw [hempty]; rfl
  cases hnext : set.next? direction d.clients with
  | none =>
      have hnone : (CycleState.collect d.clients set).candidates = [] := by
        rw [ClientSet.candidates_collect, ClientSet.next?_eq_none_iff.1 hnext, List.map_nil]
      refine ⟨d.setCycle slot (.collect d.clients set), ?_, ?_⟩
      · simp [run, hfresh, hnone]
      · rw [d.setCycle_setCycle, Desktop.setCycle_self hempty]
  | some c =>
      have hsome : (CycleState.collect d.clients set).candidates ≠ [] := by
        rw [ClientSet.candidates_collect]
        exact List.ne_nil_of_mem (List.mem_map_of_mem (ClientSet.mem_candidates_of_next? hnext))
      have htarget := ClientSet.target?_collect set direction d.clients
      rw [hnext, Option.map_some] at htarget
      have hlive : d.clients.isLive c.ref = true :=
        ClientStore.isLive_iff.2
          ⟨c, ClientSet.mem_live_of_mem_clients (ClientSet.mem_clients_of_next? hnext), rfl⟩
      let ready := d.setCycle slot (.collect d.clients set)
      have hready : ready.cycles slot = .collect d.clients set := d.setCycle_same slot _
      have hcommit : commit slot (move slot direction ready) = _ :=
        commit_move_of_isLive (hready.symm ▸ htarget) hlive
      refine ⟨commit slot (move slot direction ready), ?_, ?_⟩
      · simp [run, hfresh, hsome, List.isEmpty_iff, advance_eq, hfree, ready]
      · rw [hcommit, hready, CycleState.known_collect, Desktop.setCycle_withClients,
          ready.setCycle_setCycle, d.setCycle_setCycle, Desktop.setCycle_self hempty]
        exact congrArg (fun store => d.withClients fun _ => store)
          (d.clients.focus_preview c.ref)

end Cycle

/-- A builtin cycle is always for some set of clients. -/
theorem Action.IsBuiltin.exists_targetSet {action : Action} (h : action.IsBuiltin)
    (hinteractive : action.info.interactive = true) (incoming : Option ClientSet)
    (data : ActionData) : ∃ set, action.targetSet incoming data = some set := by
  obtain ⟨entry, hentry, -, hdefault, hinteractive', -⟩ := h
  rw [hinteractive] at hinteractive'
  have hall : ∀ entry ∈ builtinActions, true = entry.interactive → entry.defaultSet = .all := by
    decide
  rw [hall entry hentry hinteractive'] at hdefault
  cases incoming with
  | none => exact ⟨.all, by rw [Action.targetSet, hdefault]; rfl⟩
  | some set => exact ⟨set, rfl⟩

/-- The signals of an action whose session is over once it has run. -/
def Signal.wholeSession (action : Action) (set : Option ClientSet) (data : ActionData) :
    List Signal :=
  [.asked action data true, .grabbed action true, .ran action set data false, .released action,
    .ended action]

/-- What an action does at once. The arguments behind its set are its signals and the desktop behind
it. An action that is not interactive only runs. A cycle gives the focus for good to the next
candidate, unless grabs are denied or there are no candidates. -/
inductive Action.Done (denied : Bool) (data : ActionData) (d : Desktop) (action : Action)
    (set : Option ClientSet) : List Signal → Desktop → Prop
  | plain (plain : action.info.interactive = false) :
      Done denied data d action set [.ran action set data false] (action.behavior.run set data d).2
  | refused {direction : Direction} (cycle : action.IsCycle action.info.id direction)
      (refused : denied = true) :
      Done denied data d action set [.asked action data true, .grabbed action false]
        (d.warn (.grabRefused action.info.name))
  | nobody {direction : Direction} {chosen : ClientSet}
      (cycle : action.IsCycle action.info.id direction) (granted : denied = false)
      (target : set = some chosen) (empty : chosen.candidates d.clients = []) :
      Done denied data d action set (Signal.wholeSession action set data) d
  | focused {direction : Direction} {chosen : ClientSet} {c : Client}
      (cycle : action.IsCycle action.info.id direction) (granted : denied = false)
      (target : set = some chosen) (next : chosen.next? direction d.clients = some c) :
      Done denied data d action set (Signal.wholeSession action set data)
        (d.withClients (·.focus c.ref))

mutual

/-- What an entry does at once: an action what it does for its set, and a conditional what all
entries of the branch do that it chooses. -/
inductive Entry.Done (denied : Bool) (data : ActionData) :
    Option ClientSet → Entry → Desktop → List Signal → Desktop → Prop
  | action {incoming : Option ClientSet} {action : Action} {d d' : Desktop} {new : List Signal}
      (done : action.Done denied data d (action.targetSet incoming data) new d') :
      Entry.Done denied data incoming (.action action) d new d'
  | conditional {incoming : Option ClientSet} {test : Option TestChain}
      {accepted otherwise : ActionList} {set : ClientSet} {matched : Bool} {d d' : Desktop}
      {new : List Signal} (selected : set = conditionalSet test accepted d.clients incoming data)
      (chosen : matched = set.isTrue d.clients)
      (branch : EntriesDone denied data (some set) (if matched then accepted else otherwise)
        d new d') :
      Entry.Done denied data incoming (.conditional test accepted otherwise) d
        (.tested matched :: new) d'

/-- What all entries of a list do at once, one behind the other. -/
inductive EntriesDone (denied : Bool) (data : ActionData) :
    Option ClientSet → List Entry → Desktop → List Signal → Desktop → Prop
  | nil {incoming : Option ClientSet} {d : Desktop} : EntriesDone denied data incoming [] d [] d
  | cons {incoming : Option ClientSet} {entry : Entry} {entries : List Entry} {d d' d'' : Desktop}
      {new more : List Signal} (first : entry.Done denied data incoming d new d')
      (others : EntriesDone denied data incoming entries d' more d'') :
      EntriesDone denied data incoming (entry :: entries) d (new ++ more) d''

end

section Turns

variable {S : Type} [Seat S] {stage : Stage S} {action : Action} {data : ActionData}

namespace Stage

theorem cancel_of_idle (h : stage.session = none) : stage.cancel = stage := by
  rw [cancel, h]

theorem beginSession_of_idle (h : stage.session = none) (action : Action) (data : ActionData) :
    stage.beginSession action data = stage.openSession action data := by
  rw [beginSession, h]

/-- A session that is not needed any more once the action has run is over. -/
theorem runAction_granted {d d' : Desktop} {seat : S} (incoming : Option ClientSet)
    (hidle : stage.session = none) (hinteractive : action.info.interactive = true)
    (hpre : action.behavior.pre data.state data stage.desktop = (true, d))
    (hgrab : Seat.grab stage.seat = (true, seat))
    (hrun : action.behavior.run (action.targetSet incoming data) data d = (false, d')) :
    stage.runAction action incoming data =
      (false,
        { seat := Seat.release seat, desktop := action.behavior.post d'
          journal := stage.journal ++
            Signal.wholeSession action (action.targetSet incoming data) data }) := by
  have hbegin := beginSession_of_idle hidle action data
  rw [openSession_granted hpre hgrab] at hbegin
  simp only [runAction, hinteractive, if_true, hbegin, call, hrun]
  rw [endSession_some rfl]
  simp [close, signal, withDesktop, Signal.wholeSession]

theorem runAction_refused {d : Desktop} {seat : S} (incoming : Option ClientSet)
    (hidle : stage.session = none) (hinteractive : action.info.interactive = true)
    (hpre : action.behavior.pre data.state data stage.desktop = (true, d))
    (hgrab : Seat.grab stage.seat = (false, seat)) :
    stage.runAction action incoming data =
      (false,
        { seat, desktop := d.warn (.grabRefused action.info.name)
          journal := stage.journal ++ [.asked action data true, .grabbed action false] }) := by
  have hbegin := beginSession_of_idle hidle action data
  rw [openSession_refused hpre hgrab, hidle] at hbegin
  exact runAction_of_not_begun incoming hinteractive hbegin

end Stage

end Turns

/-- Nothing is left over from earlier lists: there is no session, the keyboard is free and no cycle
has begun. -/
structure Stage.IsCalm (stage : Stage HeadlessSeat) : Prop where
  idle : stage.session = none
  free : stage.seat.grabbed = false
  fresh : ∀ slot, stage.desktop.cycles slot = {}

/-- The stage with another desktop and some signals more. -/
def Stage.behind {S : Type} (stage : Stage S) (new : List Signal) (d : Desktop) : Stage S :=
  { stage with desktop := d, journal := stage.journal ++ new }

theorem Behavior.IsPlain.not_started {behavior : Behavior} (h : behavior.IsPlain)
    (set : Option ClientSet) (data : ActionData) (d : Desktop) :
    (behavior.run set data d).1 = false := by
  cases h <;> rfl

theorem HeadlessSeat.grab_denied {seat : HeadlessSeat} (h : seat.denyGrabs = true) :
    Seat.grab seat = (false, seat) := by
  simp [Seat.grab, h]

theorem HeadlessSeat.grab_free {seat : HeadlessSeat} (h : seat.denyGrabs = false)
    (hfree : seat.grabbed = false) : Seat.grab seat = (true, { seat with grabbed := true }) := by
  simp [Seat.grab, h, hfree]

theorem HeadlessSeat.release_grabbed {seat : HeadlessSeat} (h : seat.grabbed = false) :
    Seat.release { seat with grabbed := true } = seat := by
  obtain ⟨position, denyGrabs, grabbed⟩ := seat
  cases h
  rfl

section Runs

variable {stage : Stage HeadlessSeat} {action : Action} {data : ActionData}

theorem Stage.IsCalm.behind (h : stage.IsCalm) (new : List Signal) {d : Desktop}
    (hd : d.cycles = stage.desktop.cycles) : (stage.behind new d).IsCalm :=
  ⟨h.idle, h.free, fun slot => (congrFun hd slot).trans (h.fresh slot)⟩

theorem Action.Done.cycles {denied : Bool} {d d' : Desktop} {set : Option ClientSet}
    {new : List Signal} (h : action.Done denied data d set new d') (hbuiltin : action.IsBuiltin) :
    d'.cycles = d.cycles := by
  cases h with
  | plain plain =>
      rcases hbuiltin.cases with ⟨-, hplain⟩ | ⟨hinteractive, -⟩
      · exact hplain.cycles_run set data d
      · rw [plain] at hinteractive
        cases hinteractive
  | refused | nobody | focused => rfl

/-- A builtin action without held modifiers is done at once. -/
theorem Stage.IsCalm.runAction (h : stage.IsCalm) (hfree : data.state = 0)
    (hbuiltin : action.IsBuiltin) (incoming : Option ClientSet) :
    ∃ new d', action.Done stage.seat.denyGrabs data stage.desktop (action.targetSet incoming data)
        new d' ∧
      stage.runAction action incoming data = (false, stage.behind new d') := by
  rcases hbuiltin.cases with ⟨hplain, hbehavior⟩ | ⟨hinteractive, direction, hbehavior⟩
  · refine ⟨_, _, .plain hplain, ?_⟩
    rw [Stage.runAction_plain stage incoming data hplain]
    have hstarted := hbehavior.not_started (action.targetSet incoming data) data stage.desktop
    simp only [Stage.call, Stage.signal, Stage.behind, hstarted]
  · have hcycle : action.IsCycle action.info.id direction := ⟨rfl, hinteractive, hbehavior⟩
    have hpre : action.behavior.pre data.state data stage.desktop = (true, stage.desktop) := by
      rw [hbehavior]
      rfl
    cases hdeny : stage.seat.denyGrabs with
    | true =>
        refine ⟨_, _, .refused hcycle rfl, ?_⟩
        rw [Stage.runAction_refused incoming h.idle hinteractive hpre
          (HeadlessSeat.grab_denied hdeny)]
        simp only [Stage.behind, h.idle]
    | false =>
        obtain ⟨set, hset⟩ := hbuiltin.exists_targetSet hinteractive incoming data
        obtain ⟨d', hrun, hpost⟩ := Cycle.run_immediate (h.fresh action.info.id) hfree direction set
        rw [← hset, ← hcycle.run_eq] at hrun
        have hall := Stage.runAction_granted incoming h.idle hinteractive hpre
          (HeadlessSeat.grab_free hdeny h.free) hrun
        have hpost' : action.behavior.post d' = d'.setCycle action.info.id {} := by
          rw [hbehavior]
          rfl
        rw [HeadlessSeat.release_grabbed h.free, hpost', hpost] at hall
        cases hnext : set.next? direction stage.desktop.clients with
        | none =>
            rw [hnext] at hall
            refine ⟨_, _, .nobody hcycle rfl hset (ClientSet.next?_eq_none_iff.1 hnext), ?_⟩
            rw [hall]
            simp only [Stage.behind, h.idle]
        | some c =>
            rw [hnext] at hall
            refine ⟨_, _, .focused hcycle rfl hset hnext, ?_⟩
            rw [hall]
            simp only [Stage.behind, h.idle]

mutual

theorem Stage.IsCalm.runEntry {stage : Stage HeadlessSeat} (h : stage.IsCalm)
    (hfree : data.state = 0) (incoming : Option ClientSet) :
    ∀ entry : Entry, entry.Only Action.IsBuiltin →
      ∃ new d', entry.Done stage.seat.denyGrabs data incoming stage.desktop new d' ∧
        d'.cycles = stage.desktop.cycles ∧
        runEntry stage incoming data entry = (false, stage.behind new d')
  | .action action, hbuiltin => by
      obtain ⟨new, d', hdone, hrun⟩ := h.runAction hfree hbuiltin incoming
      exact ⟨new, d', .action hdone, hdone.cycles hbuiltin, hrun⟩
  | .conditional test accepted otherwise, hbuiltin => by
      rw [Entry.Only] at hbuiltin
      have htested : ∀ matched, (stage.behind [.tested matched] stage.desktop).IsCalm :=
        fun matched => h.behind [.tested matched] rfl
      generalize hset : conditionalSet test accepted stage.desktop.clients incoming data = set
      rw [WindowActions.runEntry, hset]
      cases hmatched : set.isTrue stage.desktop.clients with
      | true =>
          obtain ⟨new, d', hbranch, hcycles, hrun⟩ :=
            (htested true).runEntries hfree (some set) accepted hbuiltin.1
          refine ⟨.tested true :: new, d', .conditional hset.symm hmatched.symm hbranch, hcycles,
            hrun.trans ?_⟩
          simp [Stage.behind]
      | false =>
          obtain ⟨new, d', hbranch, hcycles, hrun⟩ :=
            (htested false).runEntries hfree (some set) otherwise hbuiltin.2
          refine ⟨.tested false :: new, d', .conditional hset.symm hmatched.symm hbranch, hcycles,
            hrun.trans ?_⟩
          simp [Stage.behind]

theorem Stage.IsCalm.runEntries {stage : Stage HeadlessSeat} (h : stage.IsCalm)
    (hfree : data.state = 0) (incoming : Option ClientSet) :
    ∀ entries : List Entry, entriesOnly Action.IsBuiltin entries →
      ∃ new d', EntriesDone stage.seat.denyGrabs data incoming entries stage.desktop new d' ∧
        d'.cycles = stage.desktop.cycles ∧
        runEntries stage incoming data entries = (false, stage.behind new d')
  | [], _ => ⟨[], stage.desktop, .nil, rfl, by simp [WindowActions.runEntries, Stage.behind]⟩
  | entry :: entries, hbuiltin => by
      rw [entriesOnly] at hbuiltin
      obtain ⟨new, d', hfirst, hcycles, hrun⟩ := h.runEntry hfree incoming entry hbuiltin.1
      obtain ⟨more, d'', hothers, hcycles', hrun'⟩ :=
        (h.behind new hcycles).runEntries hfree incoming entries hbuiltin.2
      refine ⟨new ++ more, d'', .cons hfirst hothers, hcycles'.trans hcycles, ?_⟩
      rw [WindowActions.runEntries, hrun]
      simp only [hrun']
      simp [Stage.behind]

end

/-- A list of builtin actions without held modifiers is done at once, and the stage is as calm as it
was. -/
theorem Stage.IsCalm.runList (h : stage.IsCalm) {trigger : Trigger} (hstate : trigger.state = 0)
    {list : ActionList} (hlist : entriesOnly Action.IsBuiltin list) :
    ∃ new d', EntriesDone stage.seat.denyGrabs (trigger.data stage) none list stage.desktop new d' ∧
      (stage.behind new d').IsCalm ∧
      stage.runList list trigger = (false, stage.behind new d') := by
  have hdata : (trigger.data stage).state = 0 := hstate
  obtain ⟨new, d', hdone, hcycles, hrun⟩ := h.runEntries hdata none list hlist
  exact ⟨new, d', hdone, h.behind new hcycles, hrun⟩

end Runs

/-- A cycle that has been granted the keyboard and has candidates, all of them managed, has settled
the focus on one of these. -/
theorem Action.Done.settled {action : Action} {id : Nat} {direction : Direction}
    {data : ActionData} {set : ClientSet} {d d' : Desktop} {new : List Signal}
    (h : action.Done false data d (some set) new d') (hcycle : action.IsCycle id direction)
    (hmanaged : ∀ c ∈ set.candidates d.clients, c ∈ d.clients.managed)
    (hsome : set.candidates d.clients ≠ []) :
    d'.clients.FocusSettledAmong ((set.candidates d.clients).map (·.ref)) := by
  cases h with
  | plain plain =>
      rw [hcycle.interactive] at plain
      cases plain
  | refused _ refused => cases refused
  | nobody _ _ target empty =>
      cases target
      exact absurd empty hsome
  | @focused _ _ c _ _ target next =>
      cases target
      have hmem := ClientSet.mem_candidates_of_next? next
      exact ⟨c.ref, List.mem_map_of_mem hmem,
        ClientStore.settled_focus (List.mem_map_of_mem (hmanaged c hmem))⟩

namespace Engine

variable {engine : Engine HeadlessSeat}

theorem IsReached.isCalm (h : engine.IsReached Action.IsBuiltin)
    (hidle : engine.stage.isRunning = false) (hfree : engine.stage.seat.grabbed = false) :
    engine.stage.IsCalm := by
  have hnone : engine.stage.session = none := by
    rwa [Stage.isRunning, Option.isSome_eq_false_iff, Option.isNone_iff_eq_none] at hidle
  have htidy := h.lively.1
  rw [hnone] at htidy
  exact ⟨hnone, hfree, htidy⟩

/-- A list that runs without held modifiers is done at once. No session has begun, all entries of
the list and of the branches that are chosen have been run in their order, and there is no session,
no grab and no cycle left over; so an abort or a shutdown finds nothing to take back. -/
theorem run_completes (hreached : engine.IsReached Action.IsBuiltin)
    (hidle : engine.stage.isRunning = false) (hfree : engine.stage.seat.grabbed = false)
    {list : ActionList} (hlist : entriesOnly Action.IsBuiltin list) {trigger : Trigger}
    (hstate : trigger.state = 0) :
    let after := (engine.run list trigger).2
    (engine.run list trigger).1 = false ∧ after.stage.isRunning = false ∧
      after.stage.seat = engine.stage.seat ∧ after.stage.IsCalm ∧
      (∃ new, EntriesDone engine.stage.seat.denyGrabs (trigger.data engine.stage) none list
          engine.stage.desktop new after.stage.desktop ∧
        after.stage.journal = engine.stage.journal ++ new) ∧
      after.cancel = after ∧ after.shutdown.stage = after.stage := by
  obtain ⟨new, d', hdone, hcalm, hrun⟩ :=
    (hreached.isCalm hidle hfree).runList hstate hlist
  have hafter : engine.run list trigger =
      (false, ⟨engine.vocabulary, engine.stage.behind new d'⟩) := by
    rw [run, hrun]
  have hcancel : (engine.stage.behind new d').cancel = engine.stage.behind new d' :=
    Stage.cancel_of_idle hcalm.idle
  rw [hafter]
  refine ⟨rfl, hidle, rfl, hcalm, ⟨new, hdone, rfl⟩, ?_, hcancel⟩
  rw [cancel]
  simp only [hcancel]

/-- After a session that was aborted, the next client gets the focus and is made an icon, and then
the last client gets the focus. In between no client is urgent, so a command line is started and
`NextWindow` has nobody to give the focus to. -/
theorem run_completes_icon :
    let clients : ClientStore := .ofSpecs
      [⟨1, { focused := true }⟩, ⟨2, { iconic := true }⟩, ⟨3, {}⟩]
    let history : List (Happening (HostChange HeadlessSeat)) :=
      [.call (.run [.action (.nextWindow 4)] { state := 8 }), .call .cancel]
    let engine := Engine.after HostChange.apply ⟨.builtin, { seat := {}, desktop := { clients } }⟩
      history
    let focused : Filter := ⟨⟨2, "focused"⟩, false, none, .matching (·.state.focused)⟩
    let urgent : Filter := ⟨⟨1, "urgent"⟩, false, none, .matching (·.state.urgent)⟩
    let list : ActionList :=
      [.action (.nextWindow 4),
        .conditional (some [⟨some focused, .or⟩]) [.action (.iconify 2)] [],
        .conditional (some [⟨some urgent, .or⟩]) [.action (.activate 1)]
          [.action (.execute 3 "calm"), .action (.nextWindow 4)],
        .action (.previousWindow 5)]
    let after := (engine.run list {}).2
    engine.stage.isRunning = false ∧ engine.stage.seat.grabbed = false ∧
      (engine.run list {}).1 = false ∧ after.stage.isRunning = false ∧
      after.stage.desktop.clients.specs =
        [⟨1, {}⟩, ⟨2, { iconic := true }⟩, ⟨3, { focused := true }⟩] ∧
      after.stage.desktop.commands = ["calm"] ∧ after.cancel = after := by
  intro clients history engine focused urgent list after
  have hreached : engine.IsReached Action.IsBuiltin := by
    refine ⟨.builtin, {}, clients, history, ?_, rfl⟩
    simp [history, Happening.Only, entriesOnly, Entry.Only, Action.isBuiltin_nextWindow]
  have hlist : entriesOnly Action.IsBuiltin list :=
    ⟨Action.isBuiltin_nextWindow 4, ⟨⟨Action.isBuiltin_iconify 2, trivial⟩, trivial⟩,
      ⟨⟨Action.isBuiltin_activate 1, trivial⟩, Action.isBuiltin_execute 3 "calm",
        Action.isBuiltin_nextWindow 4, trivial⟩,
      Action.isBuiltin_previousWindow 5, trivial⟩
  have hidle : engine.stage.isRunning = false := rfl
  have hfree : engine.stage.seat.grabbed = false := rfl
  have hstate : ({} : Trigger).state = 0 := rfl
  obtain ⟨hstarted, hended, -, -, -, hcancel, -⟩ :=
    run_completes hreached hidle hfree hlist hstate
  have hspecs : after.stage.desktop.clients.specs =
      [⟨1, {}⟩, ⟨2, { iconic := true }⟩, ⟨3, { focused := true }⟩] := by
    decide +kernel
  have hcommands : after.stage.desktop.commands = ["calm"] := by decide +kernel
  exact ⟨hidle, hfree, hstarted, hended, hspecs, hcommands, hcancel⟩

end Engine

/-- What the command line prints for a run are the clients behind all entries of the list. -/
theorem Command.simulate_done (clients : ClientStore) {list : ActionList}
    (hlist : entriesOnly Action.IsBuiltin list) {trigger : Trigger} (hstate : trigger.state = 0) :
    ∃ new d', EntriesDone false (trigger.data (Engine.ofClients ({} : HeadlessSeat) clients).stage)
        none list { clients } new d' ∧
      simulate clients list trigger = d'.clients.specs := by
  have hcalm : (Engine.ofClients ({} : HeadlessSeat) clients).stage.IsCalm :=
    ⟨rfl, rfl, fun _ => rfl⟩
  obtain ⟨new, d', hdone, -, hrun⟩ := hcalm.runList hstate hlist
  refine ⟨new, d', hdone, ?_⟩
  simp only [simulate, Engine.run, hrun]
  rfl

end WindowActions
