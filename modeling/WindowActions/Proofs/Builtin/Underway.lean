import WindowActions.Proofs.Builtin.Cycles
import WindowActions.Proofs.Builtin.Focus
import WindowActions.Proofs.Builtin.FocusMoved
import WindowActions.Proofs.Session.Keyboard

/-!
# A session of a cycle while it goes on

A session of `NextWindow` or `PreviousWindow` begins with a run of the action, and as long as
modifiers are held every further run of an action of the same registration goes on with it. Input
that ends nothing and changes of the surroundings may come in between.

`Underway` is what holds of the stage all the time, after some number of previews: the cycle is the
one from the beginning but for its cursor, which has moved on as many times; the clients are those
that would be there without the session, but for the focus of the ones that the cycle knows; and if
all candidates are still managed, then of the known clients exactly the candidate under the cursor
has the focus. `Engine.underway_begin` is about the run that begins the session, and
`Engine.underway_after` about everything behind it.
-/

namespace WindowActions

variable {S : Type} [Seat S]

/-- The action is the cycle of a registration in one direction. -/
structure Action.IsCycle (id : Nat) (direction : Direction) (action : Action) : Prop where
  id_eq : action.info.id = id
  interactive : action.info.interactive = true
  behavior_eq : action.behavior = Cycle.behavior id direction

/-- The name under which the cycle in a direction is registered. -/
def Direction.actionName : Direction → String
  | forward => "NextWindow"
  | backward => "PreviousWindow"

namespace Action

variable {action : Action} {id : Nat} {direction : Direction}

theorem IsBuiltin.isCycle (h : action.IsBuiltin) (hname : action.info.name = direction.actionName) :
    action.IsCycle action.info.id direction := by
  obtain ⟨entry, hentry, hentryName, -, hinteractive, hsetup⟩ := h
  rw [hname] at hentryName
  simp only [builtinActions, List.mem_cons, List.not_mem_nil, or_false] at hentry
  rcases hentry with rfl | rfl | rfl | rfl | rfl | rfl <;> cases direction
  case inr.inr.inr.inr.inl.forward | inr.inr.inr.inr.inr.backward =>
    simp only [plainSetup, Except.ok.injEq, Option.some.injEq] at hsetup
    exact ⟨rfl, hinteractive, hsetup.symm⟩
  all_goals simp [Direction.actionName] at hentryName

theorem IsCycle.run_eq (h : action.IsCycle id direction) :
    action.behavior.run = Cycle.run id direction := by
  rw [h.behavior_eq]
  rfl

theorem IsCycle.input_eq (h : action.IsCycle id direction) :
    action.behavior.input = Cycle.input id := by
  rw [h.behavior_eq]
  rfl

theorem isCycle_nextWindow (id : Nat) : (nextWindow id).IsCycle id .forward := ⟨rfl, rfl, rfl⟩

theorem isCycle_previousWindow (id : Nat) : (previousWindow id).IsCycle id .backward :=
  ⟨rfl, rfl, rfl⟩

end Action

namespace InputEvent

/-- The escape key is pressed. -/
def IsEscape (event : InputEvent) : Prop := event.kind = .keyPress ∧ event.detail = escapeKey

/-- A key is released, and none of the modifiers in `initial` is held any more. -/
def Releases (initial : Modifiers) (event : InputEvent) : Prop :=
  event.kind = .keyRelease ∧ event.state &&& initial = 0

instance (event : InputEvent) : Decidable event.IsEscape := inferInstanceAs (Decidable (_ ∧ _))

instance (initial : Modifiers) (event : InputEvent) : Decidable (event.Releases initial) :=
  inferInstanceAs (Decidable (_ ∧ _))

end InputEvent

namespace CycleState

variable {direction : Direction} {state : CycleState}

@[simp] theorem candidates_moved (direction : Direction) (state : CycleState) :
    (state.moved direction).candidates = state.candidates := rfl

@[simp] theorem focusBefore_moved (direction : Direction) (state : CycleState) :
    (state.moved direction).focusBefore = state.focusBefore := rfl

/-- A cycle knows the clients that are managed when it begins. -/
theorem known_collect (store : ClientStore) (set : ClientSet) :
    (collect store set).known = store.managed.map (·.ref) := by
  simp [known, collect, Function.comp_def]

/-- The cursor of a cycle that has moved is on a candidate. -/
theorem target?_moved (direction : Direction) (h : state.candidates ≠ []) :
    ∃ r ∈ state.candidates, (state.moved direction).target? = some r := by
  have hlt := direction.next_lt (List.length_pos_iff.2 h) state.cursor
  exact ⟨_, List.getElem_mem hlt, List.getElem?_eq_getElem hlt⟩

end CycleState

namespace Cycle

variable {slot : Nat} {direction : Direction} {set : Option ClientSet} {data : ActionData}
  {d : Desktop} {initial : Modifiers} {event : InputEvent}

theorem input_of_isEscape (h : event.IsEscape) :
    input slot initial event d = (⟨false, true⟩, revert slot d) := by
  simp only [input, h.1, h.2, if_true]

theorem input_of_releases (h : event.Releases initial) :
    input slot initial event d = (⟨false, true⟩, commit slot d) := by
  simp only [input, h.1, h.2, if_true]

variable (slot d) in
theorem input_of_neither (hescape : ¬ event.IsEscape) (hrelease : ¬ event.Releases initial) :
    (input slot initial event d).1.resume = true ∧ (input slot initial event d).2 = d := by
  rw [input]
  cases hkind : event.kind with
  | keyPress =>
      have hdetail : event.detail ≠ escapeKey := fun h => hescape ⟨hkind, h⟩
      simp [hdetail]
  | keyRelease =>
      have hheld : event.state &&& initial ≠ 0 := fun h => hrelease ⟨hkind, h⟩
      simp [hheld]
  | buttonPress | buttonRelease | motion => simp

theorem run_going (h : (d.cycles slot).candidates ≠ []) :
    run slot direction set data d =
      if data.state = 0 then (false, commit slot (move slot direction d))
      else (true, move slot direction d) := by
  simp [run, h, List.isEmpty_iff, advance_eq]

variable (direction set) in
/-- A run that begins a cycle with modifiers held finds nobody, or it shows the first candidate. -/
theorem run_fresh (hempty : d.cycles slot = {}) (hheld : data.state ≠ 0) :
    ((run slot direction set data d).1 = false ∧
        (run slot direction set data d).2.clients = d.clients) ∨
      ∃ chosen, set = some chosen ∧ (CycleState.collect d.clients chosen).candidates ≠ [] ∧
        run slot direction set data d =
          (true, move slot direction (d.setCycle slot (.collect d.clients chosen))) := by
  cases hrun : run slot direction set data d with
  | mk begun d' =>
      cases ran hrun with
      | nobody hready => exact Or.inl ⟨rfl, hready.clients_eq⟩
      | committed _ _ free => exact absurd free hheld
      | previewed hready hsome =>
          cases hready with
          | going => simp [hempty] at hsome
          | @begun chosen _ fresh =>
              rw [Desktop.setCycle_same] at hsome
              exact Or.inr ⟨chosen, rfl, hsome, rfl⟩

theorem clients_move_of_isLive {r : ClientRef}
    (htarget : ((d.cycles slot).moved direction).target? = some r)
    (hlive : d.clients.isLive r = true) :
    (move slot direction d).clients = d.clients.preview (d.cycles slot).known r := by
  simp [move, htarget, hlive, Desktop.withClients]

end Cycle

namespace Stage

variable {stage : Stage S} {session : Session} {event : InputEvent}

theorem input_of_resume (h : stage.session = some session)
    (hresume : (session.action.behavior.input session.initialState event stage.desktop).1.resume =
      true) : (stage.input event).2 = (stage.hear session event).2 := by
  have hheard : (stage.hear session event).1.resume = true := hresume
  simp [input, h, hheard]

theorem input_of_stop {d : Desktop} (h : stage.session = some session)
    (hstop : session.action.behavior.input session.initialState event stage.desktop =
      (⟨false, true⟩, d)) :
    (stage.input event).2.session = none ∧
      (stage.input event).2.desktop = session.action.behavior.post d := by
  have hinput := input_some h event
  rw [hstop] at hinput
  rcases hinput with ⟨hresume, -⟩ | ⟨-, hended⟩
  · cases hresume
  · exact hended

variable {id : Nat} {direction : Direction}

/-- The escape key ends a session of a cycle by a revert. -/
theorem input_isEscape (h : stage.session = some session)
    (hcycle : session.action.IsCycle id direction) (hevent : event.IsEscape) :
    (stage.input event).2.session = none ∧
      (stage.input event).2.desktop = (Cycle.revert id stage.desktop).setCycle id {} := by
  have hstop : session.action.behavior.input session.initialState event stage.desktop =
      (⟨false, true⟩, Cycle.revert id stage.desktop) := by
    rw [hcycle.input_eq]
    exact Cycle.input_of_isEscape hevent
  have hended := input_of_stop h hstop
  rwa [hcycle.behavior_eq] at hended

/-- The release of the last modifier from its beginning ends a session of a cycle by a commit. -/
theorem input_releases (h : stage.session = some session)
    (hcycle : session.action.IsCycle id direction) (hevent : event.Releases session.initialState) :
    (stage.input event).2.session = none ∧
      (stage.input event).2.desktop = (Cycle.commit id stage.desktop).setCycle id {} := by
  have hstop : session.action.behavior.input session.initialState event stage.desktop =
      (⟨false, true⟩, Cycle.commit id stage.desktop) := by
    rw [hcycle.input_eq]
    exact Cycle.input_of_releases hevent
  have hended := input_of_stop h hstop
  rwa [hcycle.behavior_eq] at hended

end Stage

section Deeds

variable {action : Action} {id : Nat} {direction : Direction} {set : Option ClientSet}
  {data : ActionData} {session' : Option Session} {d d' : Desktop} {begun : Bool}

/-- A cycle that runs in a session of its registration moves the preview. With modifiers held the
session goes on, and otherwise it is committed and over. -/
theorem Deed.cycle_same {session : Session}
    (h : Deed action set data (some session) d begun session' d')
    (hcycle : action.IsCycle id direction) (hsame : session.action.info.id = id)
    (hsome : (d.cycles id).candidates ≠ []) :
    (data.state ≠ 0 ∧ begun = true ∧ session' = some { session with action } ∧
        d' = Cycle.move id direction d) ∨
      (data.state = 0 ∧ begun = false ∧ session' = none ∧
        d' = (Cycle.commit id (Cycle.move id direction d)).setCycle id {}) := by
  have hrun : action.behavior.run set data d =
      if data.state = 0 then (false, Cycle.commit id (Cycle.move id direction d))
      else (true, Cycle.move id direction d) := by
    rw [hcycle.run_eq]
    exact Cycle.run_going hsome
  have hother : ¬ ∀ s ∈ some session, s.action.info.id ≠ action.info.id :=
    fun h => h session rfl (hsame.trans hcycle.id_eq.symm)
  cases h with
  | aside plain =>
      rw [hcycle.interactive] at plain
      cases plain
  | continued interactive same run =>
      by_cases hfree : data.state = 0
      · rw [hrun, if_pos hfree] at run
        cases run
      · rw [hrun, if_neg hfree] at run
        cases run
        exact Or.inl ⟨hfree, rfl, rfl, rfl⟩
  | finished interactive same run =>
      by_cases hfree : data.state = 0
      · rw [hrun, if_pos hfree] at run
        cases run
        rw [hcycle.behavior_eq]
        exact Or.inr ⟨hfree, rfl, rfl, rfl⟩
      · rw [hrun, if_neg hfree] at run
        cases run
  | declined _ other | refused _ other | opened _ other | fruitless _ other =>
      exact absurd other hother

/-- A cycle that runs with modifiers held and without a session of its registration either begins
one, with the preview of its first candidate, or leaves nothing behind but an abort. -/
theorem Deed.cycle_other {session : Option Session}
    (h : Deed action set data session d begun session' d') (hcycle : action.IsCycle id direction)
    (hother : ∀ s ∈ session, s.action.info.id ≠ id)
    (hempty : (d.abort session).cycles id = {}) (hheld : data.state ≠ 0) :
    (begun = false ∧ session' = none ∧ d'.clients = (d.abort session).clients ∧
        d'.cycles id = {}) ∨
      (begun = true ∧ session' = some ⟨action, data.state⟩ ∧ ∃ chosen, set = some chosen ∧
        (CycleState.collect (d.abort session).clients chosen).candidates ≠ [] ∧
        d' = Cycle.move id direction
          ((d.abort session).setCycle id (.collect (d.abort session).clients chosen))) := by
  have hpre : ∀ d, action.behavior.pre data.state data d = (true, d) := by
    rw [hcycle.behavior_eq]
    exact fun _ => rfl
  have hrun := Cycle.run_fresh direction set hempty hheld
  rw [← hcycle.run_eq] at hrun
  have hsession : ∀ s, session = some s → s.action.info.id ≠ action.info.id := by
    rw [hcycle.id_eq]
    exact hother
  cases h with
  | aside plain =>
      rw [hcycle.interactive] at plain
      cases plain
  | continued _ same | finished _ same => exact absurd same (hsession _ rfl)
  | declined _ _ pre =>
      rw [hpre] at pre
      cases pre
  | refused _ _ pre =>
      rw [hpre] at pre
      cases pre
      exact Or.inl ⟨rfl, rfl, rfl, hempty⟩
  | opened _ _ pre run =>
      rw [hpre] at pre
      cases pre
      rcases hrun with ⟨hfalse, -⟩ | ⟨chosen, hset, hsome, hrun⟩
      · rw [run] at hfalse
        cases hfalse
      · rw [run] at hrun
        cases hrun
        exact Or.inr ⟨rfl, rfl, chosen, hset, hsome, rfl⟩
  | fruitless _ _ pre run =>
      rw [hpre] at pre
      cases pre
      rcases hrun with ⟨-, hclients⟩ | ⟨chosen, -, -, hrun⟩
      · rw [run] at hclients
        rw [hcycle.behavior_eq]
        exact Or.inl ⟨rfl, rfl, hclients, Desktop.setCycle_same _ _ _⟩
      · rw [run] at hrun
        cases hrun

end Deeds

/-- What stays the same as long as a session of a cycle goes on. -/
structure Round where
  id : Nat
  direction : Direction
  /-- The modifiers that were held when the session began. -/
  initial : Modifiers
  /-- The cycle before the first preview. -/
  start : CycleState
  /-- The number of previews that the journal tells of from before the session. -/
  earlier : Nat

namespace Round

variable {round : Round}

/-- The cycle after a number of previews. -/
def cycle (round : Round) (k : Nat) : CycleState :=
  (CycleState.moved round.direction)^[k] round.start

theorem cycle_succ (round : Round) (k : Nat) :
    round.cycle (k + 1) = (round.cycle k).moved round.direction :=
  Function.iterate_succ_apply' _ k _

theorem candidates_cycle (round : Round) (k : Nat) :
    (round.cycle k).candidates = round.start.candidates := by
  induction k with
  | zero => rfl
  | succ k ih => rw [cycle_succ, CycleState.candidates_moved, ih]

theorem focusBefore_cycle (round : Round) (k : Nat) :
    (round.cycle k).focusBefore = round.start.focusBefore := by
  induction k with
  | zero => rfl
  | succ k ih => rw [cycle_succ, CycleState.focusBefore_moved, ih]

theorem known_cycle (round : Round) (k : Nat) : (round.cycle k).known = round.start.known := by
  rw [CycleState.known, focusBefore_cycle, CycleState.known]

end Round

/-- An action was run, and its session goes on. -/
def Signal.isPreview : Signal → Bool
  | .ran _ _ _ started => started
  | _ => false

theorem Turn.countP_isPreview {action : Action} {set : Option ClientSet} {data : ActionData}
    {before after : Option Session} {started : Bool} {new : List Signal}
    (h : Turn action set data before started new after)
    (interactive : action.info.interactive = true) :
    new.countP Signal.isPreview = started.toNat := by
  have habort : (abortSignals before).countP Signal.isPreview = 0 := by
    cases before <;> rfl
  cases h with
  | aside plain =>
      rw [interactive] at plain
      cases plain
  | continued | finished => rfl
  | declined | refused | opened | fruitless =>
      rw [List.countP_append, habort]
      rfl

theorem Turn.getLast?_begun {action : Action} {set : Option ClientSet} {data : ActionData}
    {before after : Option Session} {new : List Signal}
    (h : Turn action set data before true new after) :
    new.getLast? = some (.ran action set data true) := by
  cases h with
  | continued => rfl
  | opened => rw [List.getLast?_append]; rfl

/-- All candidates of a cycle are managed. -/
def CycleState.IsWhole (state : CycleState) (store : ClientStore) : Prop :=
  ∀ r ∈ state.candidates, r ∈ store.managed.map (·.ref)

instance (state : CycleState) (store : ClientStore) : Decidable (state.IsWhole store) :=
  inferInstanceAs (Decidable (∀ r ∈ state.candidates, _))

/-- A session of a cycle after `k` previews. Without it the clients would be those in `alone`. -/
structure Underway (round : Round) (alone : ClientStore) (k : Nat) (session : Option Session)
    (d : Desktop) : Prop where
  session : ∃ action, action.IsCycle round.id round.direction ∧
    session = some ⟨action, round.initial⟩
  cycle : d.cycles round.id = round.cycle k
  clients : alone.FocusMoved round.start.known d.clients
  /-- The clients that come later are neither candidates nor known. -/
  past : ∀ r, r ∈ round.start.candidates ∨ r ∈ round.start.known → r.serial < d.clients.nextSerial
  known : round.start.IsWhole d.clients → ∀ r ∈ round.start.candidates, r ∈ round.start.known
  shown : 0 < k → round.start.IsWhole d.clients → ∀ c ∈ d.clients.managed,
    c.ref ∈ round.start.known → (c.state.focused = true ↔ (round.cycle k).target? = some c.ref)

namespace Underway

variable {round : Round} {alone : ClientStore} {k : Nat} {session session' : Option Session}
  {d d' : Desktop}

/-- A cycle whose candidates have just been collected has not shown any of them yet. -/
theorem zero {id : Nat} {direction : Direction} {action : Action} {initial : Modifiers}
    (earlier : Nat) (hcycle : action.IsCycle id direction) {chosen : ClientSet} :
    Underway ⟨id, direction, initial, .collect d.clients chosen, earlier⟩ d.clients 0
      (some ⟨action, initial⟩) (d.setCycle id (.collect d.clients chosen)) := by
  refine ⟨⟨action, hcycle, rfl⟩, Desktop.setCycle_same _ _ _, .refl _ _, fun r hr => ?_, ?_,
    fun hk => absurd hk (Nat.lt_irrefl 0)⟩
  · have hlive : ∃ c ∈ d.clients.live, c.ref = r := by
      rcases hr with hr | hr
      · obtain ⟨c, hc, rfl⟩ := List.mem_map.1 hr
        exact ⟨c, ClientSet.mem_live_of_mem_clients (List.mem_filter.1 hc).1, rfl⟩
      · rw [CycleState.known_collect] at hr
        obtain ⟨c, hc, rfl⟩ := List.mem_map.1 hr
        exact ⟨c, ClientStore.mem_live_of_mem_managed hc, rfl⟩
    obtain ⟨c, hc, rfl⟩ := hlive
    exact d.clients.serials_below c hc
  · rw [CycleState.known_collect]
    exact fun hwhole => hwhole

theorem congr (h : Underway round alone k session d) (hcycles : d'.cycles = d.cycles)
    (hclients : d'.clients = d.clients) : Underway round alone k session d' := by
  constructor
  · exact h.session
  · rw [hcycles]
    exact h.cycle
  · rw [hclients]
    exact h.clients
  · rw [hclients]
    exact h.past
  · rw [hclients]
    exact h.known
  · rw [hclients]
    exact h.shown

/-- A run of the action moves the preview once more. -/
theorem move (h : Underway round alone k session d) (hsome : round.start.candidates ≠ [])
    (hsession' : ∃ action, action.IsCycle round.id round.direction ∧
      session' = some ⟨action, round.initial⟩) :
    Underway round alone (k + 1) session' (Cycle.move round.id round.direction d) := by
  have hcandidates : (d.cycles round.id).candidates = round.start.candidates := by
    rw [h.cycle, round.candidates_cycle]
  have hknown : (d.cycles round.id).known = round.start.known := by
    rw [h.cycle, round.known_cycle]
  have hmoved : (d.cycles round.id).moved round.direction = round.cycle (k + 1) := by
    rw [h.cycle, round.cycle_succ]
  have hclients := Cycle.clients_move round.id round.direction d
  rw [hknown] at hclients
  have hrefs : (Cycle.move round.id round.direction d).clients.managed.map (·.ref) =
      d.clients.managed.map (·.ref) := by
    rcases hclients with ⟨hsame, -⟩ | ⟨r, -, hpreview, -⟩
    · rw [hsame]
    · rw [hpreview, ClientStore.managed_refs_preview]
  have hwholes : round.start.IsWhole (Cycle.move round.id round.direction d).clients →
      round.start.IsWhole d.clients := by
    rw [CycleState.IsWhole, hrefs]
    exact id
  refine ⟨hsession', ?_, ?_, ?_, fun hwhole => h.known (hwholes hwhole), fun _ hwhole => ?_⟩
  · rw [Cycle.cycles_move, Desktop.setCycle_same, hmoved]
  · rcases hclients with ⟨hsame, -⟩ | ⟨r, -, hpreview, -⟩
    · rw [hsame]
      exact h.clients
    · rw [hpreview, ClientStore.preview_eq]
      refine h.clients.mapLive (fun c => ?_) fun c hc => ?_
      · rw [ClientStore.previewed]
        split <;> rfl
      · rw [ClientStore.previewed, if_neg hc]
  · rcases hclients with ⟨hsame, -⟩ | ⟨r, -, hpreview, -⟩
    · rw [hsame]
      exact h.past
    · rw [hpreview]
      exact h.past
  · obtain ⟨r, hr, htarget⟩ := CycleState.target?_moved round.direction
      (show (d.cycles round.id).candidates ≠ [] by rwa [hcandidates])
    rw [hcandidates] at hr
    obtain ⟨shown, hshown, rfl⟩ := List.mem_map.1 (hwholes hwhole r hr)
    have hpreview := Cycle.clients_move_of_isLive htarget (ClientStore.isLive_ref hshown)
    rw [hmoved] at htarget
    rw [hpreview, hknown, htarget, ClientStore.preview_eq, ClientStore.managed_mapLive]
    intro c hc hcknown
    obtain ⟨c, -, rfl⟩ := List.mem_map.1 hc
    simp only [ClientStore.previewed, if_pos hcknown, beq_iff_eq, Option.some.injEq]
    exact eq_comm

end Underway

namespace HostChange

/-- The surroundings let clients come and go, but do not change their states. -/
def KeepsStates : HostChange S → Prop
  | restate _ => False
  | _ => True

variable {change : HostChange S} {store store' : ClientStore} {c : Client}

omit [Seat S] in
theorem focusMoved_onClients (hkeeps : change.KeepsStates) {refs : List ClientRef}
    (h : store.FocusMoved refs store') :
    (change.onClients store).FocusMoved refs (change.onClients store') := by
  cases change with
  | manage window state => exact h.manage window state
  | unmanage window => exact h.unmanage window
  | retire window => exact h.retire window
  | release r => exact h.release r
  | restate f => exact absurd hkeeps id
  | seat f => exact h

omit [Seat S] in
theorem nextSerial_le_onClients (change : HostChange S) (store : ClientStore) :
    store.nextSerial ≤ (change.onClients store).nextSerial := by
  cases change with
  | manage window state =>
      rcases store.manage_cases window state with hsame | ⟨-, hserial⟩
      · rw [onClients, hsame]
      · rw [onClients, hserial]
        exact Nat.le_succ _
  | unmanage | retire | release | restate | seat => exact Nat.le_refl _

omit [Seat S] in
/-- A client that is managed was managed before, or it has a new serial number. -/
theorem mem_managed_onClients (hkeeps : change.KeepsStates)
    (hc : c ∈ (change.onClients store).managed) :
    c ∈ store.managed ∨ store.nextSerial ≤ c.ref.serial := by
  cases change with
  | manage window state =>
      rcases store.manage_cases window state with hsame | ⟨hmanaged, -⟩
      · rw [onClients, hsame] at hc
        exact Or.inl hc
      · rw [onClients, hmanaged, List.mem_append, List.mem_singleton] at hc
        rcases hc with hc | rfl
        · exact Or.inl hc
        · exact Or.inr (Nat.le_refl _)
  | unmanage window => exact Or.inl (ClientStore.mem_managed_keep hc)
  | retire window => exact Or.inl (ClientStore.mem_managed_retire hc)
  | release r => exact Or.inl (ClientStore.mem_managed_keep hc)
  | restate f => exact absurd hkeeps id
  | seat f => exact Or.inl hc

end HostChange

/-- What happens to the clients but for the session: what the surroundings do. -/
def Happening.onClients : Happening (HostChange S) → ClientStore → ClientStore
  | .host change, store => change.onClients store
  | _, store => store

/-- What happens ends no session of a cycle. All lists that run are of actions with a property, and
they run with modifiers held. -/
def Happening.Continues (p : Action → Prop) (initial : Modifiers) :
    Happening (HostChange S) → Prop
  | .call (.run list trigger) => entriesOnly p list ∧ trigger.state ≠ 0
  | .call (.input event) => ¬ event.IsEscape ∧ ¬ event.Releases initial
  | .call .cancel | .call .shutdown => False
  | .parse _ => True
  | .host change => change.KeepsStates

omit [Seat S] in
theorem Underway.host {round : Round} {alone : ClientStore} {k : Nat} {session : Option Session}
    {d : Desktop} (h : Underway round alone k session d) {change : HostChange S}
    (hkeeps : change.KeepsStates) :
    Underway round (change.onClients alone) k session (d.withClients change.onClients) := by
  have hserial := change.nextSerial_le_onClients d.clients
  have hbefore : ∀ c ∈ (change.onClients d.clients).managed,
      c.ref ∈ round.start.candidates ∨ c.ref ∈ round.start.known → c ∈ d.clients.managed := by
    intro c hc hold
    refine (change.mem_managed_onClients hkeeps hc).resolve_right ?_
    exact Nat.not_le.2 (h.past c.ref hold)
  have hwholes : round.start.IsWhole (change.onClients d.clients) →
      round.start.IsWhole d.clients := by
    intro hwhole r hr
    obtain ⟨c, hc, rfl⟩ := List.mem_map.1 (hwhole r hr)
    exact List.mem_map_of_mem (hbefore c hc (Or.inl hr))
  exact ⟨h.session, h.cycle, change.focusMoved_onClients hkeeps h.clients,
    fun r hr => (h.past r hr).trans_le hserial, fun hwhole => h.known (hwholes hwhole),
    fun hk hwhole c hc hknown =>
      h.shown hk (hwholes hwhole) c (hbefore c hc (Or.inr hknown)) hknown⟩

/-- The session goes on, after as many previews as the journal tells of. -/
def Stage.IsUnderway (round : Round) (alone : ClientStore) (stage : Stage S) : Prop :=
  ∃ k, 0 < k ∧ stage.journal.countP Signal.isPreview = round.earlier + k ∧
    Underway round alone k stage.session stage.desktop

/-- A session of a cycle has just begun, as the last signal in the journal tells. It is for the
clients of a set. -/
def Stage.HasBegun (id : Nat) (direction : Direction) (data : ActionData) (earlier : Nat)
    (alone : ClientStore) (stage : Stage S) : Prop :=
  ∃ action chosen, stage.journal.getLast? = some (.ran action (some chosen) data true) ∧
    (CycleState.collect alone chosen).candidates ≠ [] ∧
    stage.IsUnderway ⟨id, direction, data.state, .collect alone chosen, earlier⟩ alone

/-- No session of a registration has begun. There may be another one, and an abort of that would
leave the clients in `alone`. -/
structure Unbegun (id : Nat) (alone : ClientStore) (session : Option Session) (d : Desktop) :
    Prop where
  other : ∀ s ∈ session, s.action.info.id ≠ id
  clients : (d.abort session).clients = alone
  cycle : (d.abort session).cycles id = {}

namespace Engine

variable {round : Round} {alone : ClientStore}

theorem underway_run (hsome : round.start.candidates ≠ []) (data : ActionData)
    (hheld : data.state ≠ 0) :
    RunInvariant (Action.IsCycle round.id round.direction) (fun _ => True) data
      fun (_ : Bool) (stage : Stage S) => stage.IsUnderway round alone where
  tested stage isMatch h := by
    obtain ⟨k, hk, hcount, hunder⟩ := h
    refine ⟨k, hk, ?_, hunder⟩
    rw [Stage.signal, List.countP_append, hcount]
    rfl
  selected _ _ _ _ _ _ := trivial
  turned stage incoming action h _ hcycle := by
    obtain ⟨k, hk, hcount, hunder⟩ := h
    obtain ⟨current, hcurrent, hsession⟩ := hunder.session
    obtain ⟨new, hw, hturn⟩ := stage.runAction_turn action incoming data
    have hdeed := stage.runAction_deed action incoming data
    rw [hsession] at hdeed
    have hcandidates : (stage.desktop.cycles round.id).candidates ≠ [] := by
      rwa [hunder.cycle, round.candidates_cycle]
    rcases hdeed.cycle_same hcycle hcurrent.id_eq hcandidates with
      ⟨-, hbegun, hsession', hd⟩ | ⟨hfree, -⟩
    · refine ⟨k + 1, Nat.succ_pos k, ?_, ?_⟩
      · rw [hw.journal, List.countP_append, hcount,
          hturn.countP_isPreview hcycle.interactive, hbegun]
        rfl
      · rw [hd]
        exact hunder.move hsome ⟨action, hcycle, hsession'⟩
    · exact absurd hfree hheld

theorem underway_happen {engine : Engine S} {happening : Happening (HostChange S)}
    (hsome : round.start.candidates ≠ [])
    (hgoes : happening.Continues (Action.IsCycle round.id round.direction) round.initial)
    (h : engine.stage.IsUnderway round alone) :
    (engine.happen HostChange.apply happening).stage.IsUnderway round
      (happening.onClients alone) := by
  cases happening with
  | parse source =>
      obtain ⟨k, hk, hcount, hunder⟩ := h
      obtain ⟨hcycles, hclients⟩ := engine.stage.desktop.foldl_warn
        (engine.vocabulary.parse source).warnings
      exact ⟨k, hk, hcount, hunder.congr hcycles hclients⟩
  | host change =>
      obtain ⟨k, hk, hcount, hunder⟩ := h
      exact ⟨k, hk, hcount, hunder.host hgoes⟩
  | call call =>
      cases call with
      | run list trigger =>
          exact (underway_run hsome (trigger.data engine.stage) hgoes.2).runList h trivial hgoes.1
      | input event =>
          obtain ⟨k, hk, hcount, hunder⟩ := h
          obtain ⟨current, hcurrent, hsession⟩ := hunder.session
          have hinput := Cycle.input_of_neither round.id engine.stage.desktop hgoes.1 hgoes.2
          rw [← hcurrent.input_eq] at hinput
          have hheard := Stage.input_of_resume hsession hinput.1
          have hw := engine.stage.writes_hear ⟨current, round.initial⟩ event
          have hd : (engine.stage.hear ⟨current, round.initial⟩ event).2.desktop =
              engine.stage.desktop := hinput.2
          show (engine.stage.input event).2.IsUnderway round alone
          rw [hheard]
          refine ⟨k, hk, ?_, hunder.congr (congrArg Desktop.cycles hd) (congrArg _ hd)⟩
          rw [hw.journal, List.countP_append, hcount]
          rfl
      | cancel | shutdown => exact absurd hgoes id

theorem unbegun_run (id : Nat) (direction : Direction) (data : ActionData) (hheld : data.state ≠ 0)
    (earlier : Nat) (alone : ClientStore) :
    RunInvariant (Action.IsCycle id direction) (fun _ => True) data
      fun begun (stage : Stage S) =>
        if begun then stage.HasBegun id direction data earlier alone
        else stage.journal.countP Signal.isPreview = earlier ∧
          Unbegun id alone stage.session stage.desktop where
  tested stage isMatch h := by
    refine ⟨?_, h.2⟩
    rw [Stage.signal, List.countP_append, h.1]
    rfl
  selected _ _ _ _ _ _ := trivial
  turned stage incoming action h _ hcycle := by
    obtain ⟨hcount, hother, rfl, hempty⟩ := h
    obtain ⟨new, hw, hturn⟩ := stage.runAction_turn action incoming data
    have hnew := hturn.countP_isPreview hcycle.interactive
    rcases (stage.runAction_deed action incoming data).cycle_other hcycle hother hempty hheld with
      ⟨hbegun, hnone, hclients, hcycles⟩ | ⟨hbegun, hsession, chosen, hset, hsome, hd⟩
    · rw [hbegun] at hnew ⊢
      refine ⟨?_, ?_⟩
      · rw [hw.journal, List.countP_append, hcount, hnew]
        rfl
      · rw [hnone]
        exact ⟨by simp, hclients, hcycles⟩
    · rw [hbegun] at hturn hnew ⊢
      rw [hset] at hturn
      refine ⟨action, chosen, ?_, hsome, 1, Nat.one_pos, ?_, ?_⟩
      · rw [hw.journal, List.getLast?_append, hturn.getLast?_begun]
        rfl
      · rw [hw.journal, List.countP_append, hcount, hnew]
        rfl
      · rw [hsession, hd]
        exact (Underway.zero _ hcycle).move hsome ⟨action, hcycle, rfl⟩

/-- The engine has run nothing but actions with a property, whatever else has happened to it. -/
def IsReached (p : Action → Prop) (engine : Engine S) : Prop :=
  ∃ (vocabulary : Vocabulary) (seat : S) (clients : ClientStore)
    (happenings : List (Happening (HostChange S))),
    (∀ happening ∈ happenings, happening.Only p) ∧
    engine = Engine.after HostChange.apply ⟨vocabulary, { seat, desktop := { clients } }⟩ happenings

theorem IsReached.tidy {cyclic : Nat → Prop} {engine : Engine S}
    (h : engine.IsReached (Action.IsTame cyclic)) :
    Tidy cyclic engine.stage.session engine.stage.desktop := by
  obtain ⟨vocabulary, seat, clients, happenings, htame, rfl⟩ := h
  exact tidy_after ⟨vocabulary, { seat, desktop := { clients } }⟩ (fun _ => rfl) happenings htame

/-- A run with modifiers held that begins a session of a cycle. What an abort of the session in its
way would leave are the clients without the new one, and of these the candidates are collected. -/
theorem underway_begin {cyclic : Nat → Prop} {engine : Engine S} {id : Nat} {direction : Direction}
    (hreached : engine.IsReached (Action.IsTame cyclic))
    (hother : ∀ s ∈ engine.stage.session, s.action.info.id ≠ id) {list : ActionList}
    (hlist : entriesOnly (Action.IsCycle id direction) list) {trigger : Trigger}
    (hheld : trigger.state ≠ 0) (hbegun : (engine.run list trigger).1 = true) :
    (engine.run list trigger).2.stage.HasBegun id direction (trigger.data engine.stage)
      (engine.stage.journal.countP Signal.isPreview) engine.cancel.stage.desktop.clients := by
  have hcancel : engine.cancel.stage.desktop = engine.stage.desktop.abort engine.stage.session :=
    engine.stage.desktop_cancel
  have hstart : Unbegun id engine.cancel.stage.desktop.clients engine.stage.session
      engine.stage.desktop :=
    ⟨hother, congrArg Desktop.clients hcancel.symm, hreached.tidy.abort id⟩
  have hrun := (unbegun_run id direction (trigger.data engine.stage) hheld
    (engine.stage.journal.countP Signal.isPreview)
    engine.cancel.stage.desktop.clients).runList ⟨rfl, hstart⟩ trivial hlist
  rw [show (engine.stage.runList list trigger).1 = true from hbegun] at hrun
  exact hrun

/-- The session goes on as long as nothing happens that ends it. -/
theorem underway_after {engine : Engine S} (hsome : round.start.candidates ≠ [])
    (h : engine.stage.IsUnderway round alone) (happenings : List (Happening (HostChange S)))
    (hgoes : ∀ happening ∈ happenings,
      happening.Continues (Action.IsCycle round.id round.direction) round.initial) :
    (engine.after HostChange.apply happenings).stage.IsUnderway round
      (happenings.foldl (fun store happening => happening.onClients store) alone) := by
  induction happenings generalizing engine alone with
  | nil => exact h
  | cons happening happenings ih =>
      have hnext := underway_happen hsome (hgoes happening List.mem_cons_self) h
      exact ih hnext fun later hlater => hgoes later (List.mem_cons_of_mem happening hlater)

end Engine

end WindowActions
