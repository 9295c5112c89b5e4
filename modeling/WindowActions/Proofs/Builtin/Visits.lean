import Mathlib.Data.List.Perm.Subperm
import WindowActions.Pattern.Engine
import WindowActions.Proofs.Builtin.Completed

/-!
# The order in which candidates are visited

As long as all candidates are there, a cycle shows them one after the other in the order of its set,
or in the opposite order, beginning behind the candidate that had the focus, and starts again at the
other end. `Direction.place` says which one it shows after a number of runs. The release of the last
modifier gives this one the focus for good.
-/

namespace WindowActions

variable {S : Type} [Seat S]

namespace Direction

/-- How far a number of runs gets from the first candidate on, if the focus was on the one at
`first`. -/
def steps (direction : Direction) (first : Option Nat) (runs : Nat) : Int :=
  match direction, first with
  | forward, some first => first + runs
  | backward, some first => first - runs
  | forward, none => runs - 1
  | backward, none => -runs

/-- The place of the candidate that is shown after a number of runs, among `count` of them. -/
def place (direction : Direction) (count : Nat) (first : Option Nat) (runs : Nat) : Nat :=
  (direction.steps first runs % count).toNat

variable {direction : Direction} {count : Nat} {first : Option Nat}

theorem cast_place (hcount : 0 < count) (runs : Nat) :
    (direction.place count first runs : Int) = direction.steps first runs % count :=
  Int.toNat_of_nonneg (Int.emod_nonneg _ (by omega))

theorem place_lt (hcount : 0 < count) (runs : Nat) :
    direction.place count first runs < count := by
  have hlt := Int.emod_lt_of_pos (direction.steps first runs) (b := count) (by omega)
  rw [← cast_place hcount] at hlt
  omega

/-- One step forward, or one step backward. -/
def sign : Direction → Int
  | forward => 1
  | backward => -1

theorem steps_succ (direction : Direction) (first : Option Nat) (runs : Nat) :
    direction.steps first (runs + 1) = direction.steps first runs + direction.sign := by
  cases direction <;> cases first <;> simp only [steps, sign] <;> omega

theorem cast_next (hcount : 0 < count) (cursor : Nat) :
    (direction.next count (some cursor) : Int) = (cursor + direction.sign) % count := by
  cases direction with
  | forward => rfl
  | backward =>
      have hcast : ((cursor + count - 1 : Nat) : Int) = cursor + sign backward + count := by
        simp only [sign]
        omega
      rw [next, Int.natCast_emod, hcast, Int.add_emod_right]

theorem next_eq_place (hcount : 0 < count) :
    direction.next count first = direction.place count first 1 := by
  refine Int.ofNat_inj.1 ?_
  rw [cast_place hcount]
  cases first with
  | some cursor =>
      rw [cast_next hcount]
      cases direction <;> rfl
  | none =>
      cases direction with
      | forward => exact (Int.zero_emod _).symm
      | backward =>
          have hlast : ((count - 1 : Nat) : Int) = steps backward none 1 + count := by
            simp only [steps]
            omega
          rw [next, ← Int.add_emod_right, ← hlast, Int.emod_eq_of_lt (by omega) (by omega)]

theorem next_place (hcount : 0 < count) (runs : Nat) :
    direction.next count (some (direction.place count first runs)) =
      direction.place count first (runs + 1) := by
  refine Int.ofNat_inj.1 ?_
  rw [cast_next hcount, cast_place hcount, cast_place hcount, Int.emod_add_emod, steps_succ]

/-- As many consecutive runs as there are candidates come to different places. -/
theorem place_injective {runs i j : Nat} (hi : i < count) (hj : j < count)
    (h : direction.place count first (runs + i) = direction.place count first (runs + j)) :
    i = j := by
  have hcount : 0 < count := Nat.zero_lt_of_lt hi
  have hcast := congrArg (Nat.cast : Nat → Int) h
  rw [cast_place hcount, cast_place hcount, Int.emod_eq_emod_iff_emod_sub_eq_zero] at hcast
  have hdvd := Int.dvd_of_emod_eq_zero hcast
  have hzero := Int.eq_zero_of_dvd_of_natAbs_lt_natAbs hdvd (by
    cases direction <;> cases first <;> simp only [steps] <;> omega)
  cases direction <;> cases first <;> simp only [steps] at hzero <;> omega

/-- As many consecutive runs as there are candidates visit every place once. -/
theorem place_perm (direction : Direction) (count : Nat) (first : Option Nat) (runs : Nat) :
    ((List.range count).map fun i => direction.place count first (runs + i)).Perm
      (List.range count) := by
  have hnodup : ((List.range count).map fun i => direction.place count first (runs + i)).Nodup := by
    refine List.Nodup.map_on (fun i hi j hj h => ?_) List.nodup_range
    exact place_injective (List.mem_range.1 hi) (List.mem_range.1 hj) h
  have hsubset : ((List.range count).map fun i => direction.place count first (runs + i)) ⊆
      List.range count := by
    intro n hn
    obtain ⟨i, hi, rfl⟩ := List.mem_map.1 hn
    exact List.mem_range.2 (place_lt (Nat.zero_lt_of_lt (List.mem_range.1 hi)) _)
  exact (hnodup.subperm hsubset).perm_of_length_le (by simp)

end Direction

/-- The candidate that a cycle shows after a number of runs, counted from this state on. -/
def CycleState.shownAfter (direction : Direction) (state : CycleState) (runs : Nat) :
    Option ClientRef :=
  state.candidates[direction.place state.candidates.length state.cursor runs]?

theorem CycleState.exists_shownAfter (direction : Direction) {state : CycleState}
    (hsome : state.candidates ≠ []) (runs : Nat) :
    ∃ r ∈ state.candidates, state.shownAfter direction runs = some r := by
  have hlt : direction.place state.candidates.length state.cursor runs < state.candidates.length :=
    Direction.place_lt (List.length_pos_iff.2 hsome) runs
  exact ⟨_, List.getElem_mem hlt, List.getElem?_eq_getElem hlt⟩

/-- As many consecutive runs as there are candidates show each of them once. -/
theorem CycleState.shownAfter_perm (direction : Direction) (state : CycleState) (runs : Nat) :
    ((List.range state.candidates.length).map fun i =>
      state.shownAfter direction (runs + i)).Perm (state.candidates.map some) := by
  have hplaces := (direction.place_perm state.candidates.length state.cursor runs).map
    (state.candidates[·]?)
  have hall : (List.range state.candidates.length).map (state.candidates[·]?) =
      state.candidates.map some := by
    refine List.ext_getElem (by simp) fun n hn hn' => ?_
    rw [List.length_map, List.length_range] at hn
    simp [hn]
  rw [List.map_map, hall] at hplaces
  exact hplaces

namespace Round

theorem cursor_cycle (round : Round) (hsome : round.start.candidates ≠ []) (runs : Nat) :
    (round.cycle (runs + 1)).cursor =
      some (round.direction.place round.start.candidates.length round.start.cursor (runs + 1)) := by
  have hcount := List.length_pos_iff.2 hsome
  induction runs with
  | zero =>
      rw [← Direction.next_eq_place hcount]
      rfl
  | succ runs ih =>
      rw [cycle_succ, CycleState.moved, ih, candidates_cycle, Direction.next_place hcount]

theorem target?_cycle (round : Round) (hsome : round.start.candidates ≠ []) {runs : Nat}
    (hruns : 0 < runs) :
    (round.cycle runs).target? = round.start.shownAfter round.direction runs := by
  obtain ⟨k, rfl⟩ := Nat.exists_eq_succ_of_ne_zero hruns.ne'
  rw [CycleState.target?, round.cursor_cycle hsome, candidates_cycle]
  rfl

end Round

/-- Of the clients in `refs` exactly `r` has the focus, and it is managed. -/
structure ClientStore.FocusedAmong (store : ClientStore) (refs : List ClientRef) (r : ClientRef) :
    Prop where
  mem : r ∈ refs
  managed : r ∈ store.managed.map (·.ref)
  focused : ∀ c ∈ store.managed, c.ref ∈ refs → (c.state.focused = true ↔ c.ref = r)

/-- After a number of previews, the candidate that they have come to is shown, and the release of
the last modifier settles the focus on it. -/
theorem Underway.shows {engine : Engine S} {round : Round} {alone : ClientStore} {k : Nat}
    (h : Underway round alone k engine.stage.session engine.stage.desktop)
    (hsome : round.start.candidates ≠ []) (hk : 0 < k)
    (hwhole : round.start.IsWhole engine.stage.desktop.clients) :
    ∃ r, round.start.shownAfter round.direction k = some r ∧
      engine.stage.desktop.clients.FocusedAmong round.start.known r ∧
      ∀ event : InputEvent, event.Releases round.initial →
        (engine.input event).2.stage.isRunning = false ∧
          (engine.input event).2.stage.desktop.clients.FocusSettled r := by
  obtain ⟨r, hr, hshown⟩ := CycleState.exists_shownAfter round.direction hsome k
  have htarget := (round.target?_cycle hsome hk).trans hshown
  have hmanaged := hwhole r hr
  refine ⟨r, hshown, ⟨h.known hwhole r hr, hmanaged, fun c hc hknown => ?_⟩, fun event hevent => ?_⟩
  · rw [h.shown hk hwhole c hc hknown, htarget, Option.some.injEq, eq_comm]
  · obtain ⟨action, hcycle, hsession⟩ := h.session
    obtain ⟨hended, hd⟩ := Stage.input_releases hsession hcycle hevent
    obtain ⟨c, hc, rfl⟩ := List.mem_map.1 hmanaged
    rw [← h.cycle] at htarget
    have hclients := congrArg Desktop.clients hd
    rw [Desktop.clients_setCycle,
      Cycle.clients_commit_of_isLive htarget (ClientStore.isLive_ref hc)] at hclients
    refine ⟨congrArg Option.isSome hended, ?_⟩
    rw [show (engine.input event).2.stage.desktop.clients = _ from hclients]
    exact ClientStore.settled_focus hmanaged

namespace Engine

/-- A session of a cycle begins with modifiers held, for the clients of a set that have not been
asked to close, in the order of the set and counted from the first one that has the focus, and these
stay managed. However often lists of the same action run then, and whatever else happens that does
not end the session, the focus among the clients from the beginning is on the candidate that is as
many steps away as there were runs. The release of a key after which none of the initial modifiers
is held ends the session, and then of all managed clients exactly this candidate has the focus, and
it is not an icon. Any consecutive runs, as many as there are candidates, show each of them once. -/
theorem visits_in_order {cyclic : Nat → Prop} {id : Nat} {direction : Direction} {engine : Engine S}
    (hreached : engine.IsReached (Action.IsTame cyclic))
    (hother : ∀ session ∈ engine.stage.session, session.action.info.id ≠ id) {list : ActionList}
    (hlist : entriesOnly (Action.IsCycle id direction) list) {trigger : Trigger}
    (hheld : trigger.state ≠ 0) (hbegun : (engine.run list trigger).1 = true) :
    let before := engine.cancel.stage.desktop.clients
    let refs := before.managed.map (·.ref)
    let begun := (engine.run list trigger).2
    ∃ action set, begun.stage.journal.getLast? =
        some (.ran action (some set) (trigger.data engine.stage) true) ∧
      let start := CycleState.collect before set
      let candidates := (set.clients before).filter fun c => !c.state.closed
      start.candidates = candidates.map (·.ref) ∧
      start.cursor = candidates.findIdx? (·.state.focused) ∧
      (∀ runs, ((List.range start.candidates.length).map fun i =>
        start.shownAfter direction (runs + i)).Perm (start.candidates.map some)) ∧
      ∀ happenings : List (Happening (HostChange S)),
        (∀ happening ∈ happenings,
          happening.Continues (Action.IsCycle id direction) trigger.state) →
        let now := begun.after HostChange.apply happenings
        start.IsWhole now.stage.desktop.clients →
        ∃ runs r, 0 < runs ∧
          now.stage.journal.countP Signal.isPreview =
            engine.stage.journal.countP Signal.isPreview + runs ∧
          start.shownAfter direction runs = some r ∧
          now.stage.desktop.clients.FocusedAmong refs r ∧
          ∀ event : InputEvent, event.Releases trigger.state →
            (now.input event).2.stage.isRunning = false ∧
              (now.input event).2.stage.desktop.clients.FocusSettled r := by
  intro before refs begun
  obtain ⟨action, set, hlast, hsome, hbegin⟩ := underway_begin hreached hother hlist hheld hbegun
  refine ⟨action, set, hlast, rfl, rfl, CycleState.shownAfter_perm direction _, ?_⟩
  intro happenings hgoes now hwhole
  obtain ⟨runs, hruns, hcount, hunder⟩ := underway_after hsome hbegin happenings hgoes
  obtain ⟨r, hshown, hfocused, hreleased⟩ := hunder.shows hsome hruns hwhole
  rw [CycleState.known_collect] at hfocused
  exact ⟨runs, r, hruns, hcount, hshown, hfocused, hreleased⟩

/-- `PreviousWindow` for four clients, of which the second has the focus and the last has been asked
to close, comes to the third one with its second run. -/
theorem visits_in_order_backward :
    let clients : ClientStore := .ofSpecs
      [⟨1, {}⟩, ⟨2, { focused := true }⟩, ⟨3, { iconic := true }⟩, ⟨4, { closed := true }⟩]
    let engine : Engine HeadlessSeat := ⟨.builtin, { seat := {}, desktop := { clients } }⟩
    let list : ActionList := [.action (.previousWindow 5)]
    let trigger : Trigger := { state := 8 }
    let happenings : List (Happening (HostChange HeadlessSeat)) :=
      [.call (.input ⟨.keyRelease, 23, 8⟩), .call (.run list { state := 1 })]
    let now := (engine.run list trigger).2.after HostChange.apply happenings
    now.stage.desktop.clients.FocusedAmong (clients.managed.map (·.ref)) ⟨2, 3⟩ ∧
      (now.input ⟨.keyRelease, 64, 0⟩).2.stage.isRunning = false ∧
      (now.input ⟨.keyRelease, 64, 0⟩).2.stage.desktop.clients.FocusSettled ⟨2, 3⟩ := by
  intro clients engine list trigger happenings now
  have hreached : engine.IsReached (Action.IsTame fun _ => True) :=
    ⟨.builtin, {}, clients, [], by simp, rfl⟩
  have hlist : entriesOnly (Action.IsCycle 5 .backward) list :=
    ⟨Action.isCycle_previousWindow 5, trivial⟩
  have hgoes : ∀ happening ∈ happenings,
      happening.Continues (Action.IsCycle 5 .backward) trigger.state := by
    simp [happenings, Happening.Continues, hlist, InputEvent.IsEscape, InputEvent.Releases, trigger]
  have hother : ∀ session ∈ engine.stage.session, session.action.info.id ≠ 5 := by
    rintro session ⟨⟩
  have hheld : trigger.state ≠ 0 := by decide
  have hbegun : (engine.run list trigger).1 = true := by decide
  obtain ⟨action, set, hlast, -, -, -, hvisits⟩ :=
    visits_in_order hreached hother hlist hheld hbegun
  have hset : set = .all := by
    have hall : (engine.run list trigger).2.stage.journal.getLast? =
        some (.ran (.previousWindow 5) (some .all) (trigger.data engine.stage) true) := rfl
    rw [hall] at hlast
    cases hlast
    rfl
  subst hset
  obtain ⟨runs, r, -, hcount, hshown, hfocused, hreleased⟩ := hvisits happenings hgoes (by decide)
  have hruns : runs = 2 := by
    have htwo : now.stage.journal.countP Signal.isPreview = 2 := by decide
    have hnone : engine.stage.journal.countP Signal.isPreview = 0 := rfl
    rw [htwo, hnone, Nat.zero_add] at hcount
    exact hcount.symm
  subst hruns
  have hr : r = ⟨2, 3⟩ := Option.some.inj (hshown.symm.trans (by decide))
  subst hr
  exact ⟨hfocused, hreleased ⟨.keyRelease, 64, 0⟩ (by decide)⟩

end Engine

end WindowActions
