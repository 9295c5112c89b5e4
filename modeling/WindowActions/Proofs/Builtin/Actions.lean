import WindowActions.Builtin.Actions
import WindowActions.Proofs.Membership.Entries

/-!
# What the builtin actions do

The builtin actions are of two kinds. The plain ones run and are done with, and have no part in any
cycle. The others are cycles: they change the cycle of their registration only, and of the clients
only the focus, except that committing also shows the client.

What a run of a cycle can do is listed by `Cycle.Ran`: it makes the cycle ready, moves the preview,
and commits it if there is nothing to wait for. What becomes of the clients then is said in terms of
`ClientStore.preview` and `ClientStore.focus`, and these are maps with `previewed` and
`refocused`.
-/

namespace WindowActions

/-- The behaviors of the builtin actions that are not interactive. -/
inductive Behavior.IsPlain : Behavior → Prop
  | close : IsPlain closeBehavior
  | activate : IsPlain activateBehavior
  | iconify : IsPlain iconifyBehavior
  | execute (command : String) : IsPlain (executeBehavior command)

/-- The action is one that the registration of a builtin action makes from its options. -/
def Action.IsBuiltin (action : Action) : Prop :=
  ∃ entry ∈ builtinActions, action.info.name = entry.name ∧
    action.info.defaultSet = entry.defaultSet ∧ action.info.interactive = entry.interactive ∧
    entry.setup action.info action.options = .ok (some action.behavior)

/-- A builtin action is plain, or it is the cycle of its registration. -/
theorem Action.IsBuiltin.cases {action : Action} (h : action.IsBuiltin) :
    (action.info.interactive = false ∧ action.behavior.IsPlain) ∨
      (action.info.interactive = true ∧
        ∃ direction, action.behavior = Cycle.behavior action.info.id direction) := by
  obtain ⟨entry, hentry, -, -, hinteractive, hsetup⟩ := h
  simp only [builtinActions, List.mem_cons, List.not_mem_nil, or_false] at hentry
  rcases hentry with rfl | rfl | rfl | rfl | rfl | rfl
  case inr.inr.inr.inl =>
      simp only [executeSetup, Except.ok.injEq, Option.map_eq_some_iff] at hsetup
      obtain ⟨command, -, hbehavior⟩ := hsetup
      exact Or.inl ⟨hinteractive, hbehavior ▸ .execute command⟩
  all_goals
    simp only [plainSetup, Except.ok.injEq, Option.some.injEq] at hsetup
  · exact Or.inl ⟨hinteractive, hsetup ▸ .close⟩
  · exact Or.inl ⟨hinteractive, hsetup ▸ .activate⟩
  · exact Or.inl ⟨hinteractive, hsetup ▸ .iconify⟩
  · exact Or.inr ⟨hinteractive, .forward, hsetup.symm⟩
  · exact Or.inr ⟨hinteractive, .backward, hsetup.symm⟩

namespace Action

/-- `Activate`, registered under a number. -/
def activate (id : Nat) : Action := ⟨⟨id, "Activate", .single, false⟩, [], activateBehavior⟩

/-- `Iconify`, registered under a number. -/
def iconify (id : Nat) : Action := ⟨⟨id, "Iconify", .single, false⟩, [], iconifyBehavior⟩

/-- `Execute` of a command line, registered under a number. -/
def execute (id : Nat) (command : String) : Action :=
  ⟨⟨id, "Execute", .empty, false⟩, [("command", .text command)], executeBehavior command⟩

/-- `NextWindow`, registered under a number. -/
def nextWindow (id : Nat) : Action :=
  ⟨⟨id, "NextWindow", .all, true⟩, [], Cycle.behavior id .forward⟩

/-- `PreviousWindow`, registered under a number. -/
def previousWindow (id : Nat) : Action :=
  ⟨⟨id, "PreviousWindow", .all, true⟩, [], Cycle.behavior id .backward⟩

theorem isBuiltin_activate (id : Nat) : (activate id).IsBuiltin :=
  ⟨_, List.mem_of_getElem? (i := 1) rfl, rfl, rfl, rfl, rfl⟩

theorem isBuiltin_iconify (id : Nat) : (iconify id).IsBuiltin :=
  ⟨_, List.mem_of_getElem? (i := 2) rfl, rfl, rfl, rfl, rfl⟩

theorem isBuiltin_execute (id : Nat) (command : String) : (execute id command).IsBuiltin :=
  ⟨_, List.mem_of_getElem? (i := 3) rfl, rfl, rfl, rfl, rfl⟩

theorem isBuiltin_nextWindow (id : Nat) : (nextWindow id).IsBuiltin :=
  ⟨_, List.mem_of_getElem? (i := 4) rfl, rfl, rfl, rfl, rfl⟩

theorem isBuiltin_previousWindow (id : Nat) : (previousWindow id).IsBuiltin :=
  ⟨_, List.mem_of_getElem? (i := 5) rfl, rfl, rfl, rfl, rfl⟩

end Action

namespace Behavior.IsPlain

variable {behavior : Behavior}

theorem cycles_run (h : behavior.IsPlain) (set : Option ClientSet) (data : ActionData)
    (d : Desktop) : (behavior.run set data d).2.cycles = d.cycles := by
  cases h with
  | close | iconify => rfl
  | activate =>
      simp only [activateBehavior, Behavior.simple]
      split <;> rfl
  | execute command =>
      simp only [executeBehavior, Behavior.simple]
      split <;> rfl

end Behavior.IsPlain

namespace ClientStore

/-- The state of a client after a preview of `r` among `others`. -/
def previewed (others : List ClientRef) (r : ClientRef) (c : Client) : ClientState :=
  if c.ref ∈ others then { c.state with focused := c.ref == r } else c.state

/-- The state of a client after `r` has got the focus. -/
def refocused (r : ClientRef) (c : Client) : ClientState :=
  { c.state with
    focused := if c.managed then c.ref == r else c.state.focused
    iconic := if c.ref = r then false else c.state.iconic }

theorem preview_eq (store : ClientStore) (others : List ClientRef) (r : ClientRef) :
    store.preview others r = store.mapLive (previewed others r) := rfl

theorem focus_eq (store : ClientStore) (r : ClientRef) :
    store.focus r = store.mapLive (refocused r) := by
  rw [focus, mapManaged, modify, mapLive_mapLive]
  refine congrArg store.mapLive (funext fun c => ?_)
  by_cases href : c.ref = r <;> by_cases hmanaged : c.managed = true <;>
    simp [refocused, href, hmanaged]

end ClientStore

theorem Direction.next_lt (direction : Direction) {count : Nat} (h : 0 < count)
    (cursor : Option Nat) : direction.next count cursor < count := by
  cases direction <;> cases cursor
  case forward.none => exact h
  case backward.none => exact Nat.sub_lt h Nat.one_pos
  case forward.some | backward.some => exact Nat.mod_lt _ h

/-- The clients that were managed when a cycle began. -/
def CycleState.known (state : CycleState) : List ClientRef := state.focusBefore.map (·.1)

/-- The state of a cycle whose cursor has moved on. -/
def CycleState.moved (direction : Direction) (state : CycleState) : CycleState :=
  { state with cursor := some (direction.next state.candidates.length state.cursor) }

namespace Cycle

variable {slot n : Nat} {direction : Direction} {set : Option ClientSet} {data : ActionData}
  {d : Desktop}

@[simp] theorem cycles_commit (slot : Nat) (d : Desktop) : (commit slot d).cycles = d.cycles := by
  rw [commit]
  split
  · split <;> rfl
  · rfl

@[simp] theorem cycles_revert (slot : Nat) (d : Desktop) : (revert slot d).cycles = d.cycles := rfl

theorem clients_commit (slot : Nat) (d : Desktop) :
    (commit slot d).clients = d.clients ∨
      ∃ r, (d.cycles slot).target? = some r ∧ (commit slot d).clients = d.clients.focus r := by
  rw [commit]
  split
  case h_1 r htarget =>
      split
      · exact Or.inr ⟨r, htarget, rfl⟩
      · exact Or.inl rfl
  case h_2 => exact Or.inl rfl

theorem target?_mem {state : CycleState} {r : ClientRef} (h : state.target? = some r) :
    r ∈ state.candidates := by
  obtain ⟨cursor, -, hcursor⟩ := Option.bind_eq_some_iff.1 h
  exact List.mem_of_getElem? hcursor

/-- The desktop after the preview of a cycle has moved: the new candidate is shown unless it is
gone. -/
def move (slot : Nat) (direction : Direction) (d : Desktop) : Desktop :=
  let state := (d.cycles slot).moved direction
  match state.target? with
  | some r =>
    if d.clients.isLive r then
      (d.setCycle slot state).withClients (·.preview (d.cycles slot).known r)
    else d.setCycle slot state
  | none => d.setCycle slot state

/-- Without held modifiers a preview is committed as soon as it has moved. -/
theorem advance_eq (slot : Nat) (direction : Direction) (modifiers : Modifiers) (d : Desktop) :
    advance slot direction modifiers d =
      if modifiers = 0 then (false, commit slot (move slot direction d))
      else (true, move slot direction d) := rfl

theorem cycles_move (slot : Nat) (direction : Direction) (d : Desktop) :
    (move slot direction d).cycles =
      (d.setCycle slot ((d.cycles slot).moved direction)).cycles := by
  rw [move]
  split
  · split <;> rfl
  · rfl

/-- A preview and the commit right behind it do nothing if the new candidate is gone, and otherwise
are for the same candidate. -/
theorem clients_move (slot : Nat) (direction : Direction) (d : Desktop) :
    ((move slot direction d).clients = d.clients ∧
        (commit slot (move slot direction d)).clients = d.clients) ∨
      ∃ r ∈ (d.cycles slot).candidates,
        (move slot direction d).clients = d.clients.preview (d.cycles slot).known r ∧
          (commit slot (move slot direction d)).clients =
            (d.clients.preview (d.cycles slot).known r).focus r := by
  have htarget? : ((move slot direction d).cycles slot).target? =
      ((d.cycles slot).moved direction).target? := by
    rw [cycles_move, Desktop.setCycle_same]
  cases htarget : ((d.cycles slot).moved direction).target? with
  | none =>
      rw [commit, htarget?, htarget]
      simp [move, htarget]
  | some r =>
      cases hlive : d.clients.isLive r with
      | false =>
          have hmove : (move slot direction d).clients = d.clients := by
            simp [move, htarget, hlive]
          rw [commit, htarget?, htarget]
          simp [hmove, hlive]
      | true =>
          have hmem : r ∈ ((d.cycles slot).moved direction).candidates := target?_mem htarget
          have hmove : (move slot direction d).clients =
              d.clients.preview (d.cycles slot).known r := by
            simp [move, htarget, hlive, Desktop.withClients]
          have hpreview : (d.clients.preview (d.cycles slot).known r).isLive r = true :=
            (ClientStore.isLive_mapLive _ _ r).trans hlive
          refine Or.inr ⟨r, hmem, hmove, ?_⟩
          rw [commit, htarget?, htarget]
          simp [hmove, hpreview, Desktop.withClients]

/-- The desktop from which a run moves the preview: the cycle has begun if there was none and a set
to collect its candidates from. -/
inductive Ready (slot : Nat) : Option ClientSet → Desktop → Desktop → Prop
  | going {set : Option ClientSet} {d : Desktop} : Ready slot set d d
  | begun {set : ClientSet} {d : Desktop} (fresh : (d.cycles slot).candidates = []) :
      Ready slot (some set) d (d.setCycle slot (.collect d.clients set))

theorem Ready.clients_eq {d' : Desktop} (h : Ready slot set d d') : d'.clients = d.clients := by
  cases h <;> rfl

theorem Ready.cycles_other {d' : Desktop} (h : Ready slot set d d') (hn : n ≠ slot) :
    d'.cycles n = d.cycles n := by
  cases h with
  | going => rfl
  | begun fresh => exact d.setCycle_other hn _

/-- What a run does once the cycle is ready: nothing if there are no candidates. Otherwise it moves
the preview, and without held modifiers it commits it at once. -/
inductive Ran (slot : Nat) (direction : Direction) (set : Option ClientSet) (data : ActionData)
    (d : Desktop) : Bool → Desktop → Prop
  | nobody {ready : Desktop} (begin : Ready slot set d ready)
      (empty : (ready.cycles slot).candidates = []) : Ran slot direction set data d false ready
  | committed {ready : Desktop} (begin : Ready slot set d ready)
      (nonempty : (ready.cycles slot).candidates ≠ []) (free : data.state = 0) :
      Ran slot direction set data d false (commit slot (move slot direction ready))
  | previewed {ready : Desktop} (begin : Ready slot set d ready)
      (nonempty : (ready.cycles slot).candidates ≠ []) (held : data.state ≠ 0) :
      Ran slot direction set data d true (move slot direction ready)

theorem ran_of_ready {ready : Desktop} (hready : Ready slot set d ready)
    (hrun : run slot direction set data d =
      if (ready.cycles slot).candidates = [] then (false, ready)
      else advance slot direction data.state ready) :
    Ran slot direction set data d (run slot direction set data d).1
      (run slot direction set data d).2 := by
  rw [hrun, advance_eq]
  by_cases hnone : (ready.cycles slot).candidates = []
  · rw [if_pos hnone]
    exact .nobody hready hnone
  · rw [if_neg hnone]
    by_cases hfree : data.state = 0
    · rw [if_pos hfree]
      exact .committed hready hnone hfree
    · rw [if_neg hfree]
      exact .previewed hready hnone hfree

theorem ran {begun : Bool} {d' : Desktop} (hrun : run slot direction set data d = (begun, d')) :
    Ran slot direction set data d begun d' := by
  have hran : Ran slot direction set data d (run slot direction set data d).1
      (run slot direction set data d).2 := by
    by_cases hfresh : (d.cycles slot).candidates = []
    · cases set with
      | none => exact ran_of_ready .going (by simp [run, hfresh])
      | some set => exact ran_of_ready (.begun hfresh) (by simp [run, hfresh, List.isEmpty_iff])
    · exact ran_of_ready .going (by simp [run, hfresh, List.isEmpty_iff])
  rwa [hrun] at hran

/-- A run leaves the cycles of other registrations alone. -/
theorem Ran.cycles_other {begun : Bool} {d' : Desktop}
    (h : Ran slot direction set data d begun d') (hn : n ≠ slot) :
    d'.cycles n = d.cycles n := by
  have hmove : ∀ {ready : Desktop}, Ready slot set d ready →
      (move slot direction ready).cycles n = d.cycles n := by
    intro ready hready
    rw [cycles_move, ready.setCycle_other hn, hready.cycles_other hn]
  cases h with
  | nobody hready => exact hready.cycles_other hn
  | committed hready => rw [cycles_commit, hmove hready]
  | previewed hready => exact hmove hready

end Cycle

end WindowActions
