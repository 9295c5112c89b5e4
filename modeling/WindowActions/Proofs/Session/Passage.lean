import WindowActions.Proofs.Session.Journal

/-!
# What a run can do to the session

`Turn` lists everything that running one action can do: which signals it writes and which session
it leaves behind, for every session before it. `Passage` puts turns and tests one behind the other
as a run of an action list does, which stops at the first turn that begins a session. All that is
known of sessions follows from these two relations, so nothing else looks into the code that runs
an action.
-/

namespace WindowActions

variable {S : Type} [Seat S]

/-- One action runs. The arguments behind those of the action are the session before, whether a
session has begun, the signals, and the session after. An action that is not interactive only runs.
Any other one goes on with the session of its registration or finishes it. If there is none, it
aborts whatever session there is; then it declines to begin, or is refused the keyboard, or opens a
session of its own, which is fruitless if the action has no need of it once it has run. -/
inductive Turn (action : Action) (set : Option ClientSet) (data : ActionData) :
    Option Session → Bool → List Signal → Option Session → Prop
  | aside {session : Option Session} {started : Bool} (plain : action.info.interactive = false) :
      Turn action set data session false [.ran action set data started] session
  | continued {session : Session} (interactive : action.info.interactive = true)
      (same : session.action.info.id = action.info.id) :
      Turn action set data (some session) true [.ran action set data true]
        (some { session with action })
  | finished {session : Session} (interactive : action.info.interactive = true)
      (same : session.action.info.id = action.info.id) :
      Turn action set data (some session) false
        [.ran action set data false, .released action, .ended action] none
  | declined {session : Option Session} (interactive : action.info.interactive = true)
      (other : ∀ s ∈ session, s.action.info.id ≠ action.info.id) :
      Turn action set data session false (abortSignals session ++ [.asked action data false]) none
  | refused {session : Option Session} (interactive : action.info.interactive = true)
      (other : ∀ s ∈ session, s.action.info.id ≠ action.info.id) :
      Turn action set data session false
        (abortSignals session ++ [.asked action data true, .grabbed action false]) none
  | opened {session : Option Session} (interactive : action.info.interactive = true)
      (other : ∀ s ∈ session, s.action.info.id ≠ action.info.id) :
      Turn action set data session true
        (abortSignals session ++
          [.asked action data true, .grabbed action true, .ran action set data true])
        (some ⟨action, data.state⟩)
  | fruitless {session : Option Session} (interactive : action.info.interactive = true)
      (other : ∀ s ∈ session, s.action.info.id ≠ action.info.id) :
      Turn action set data session false
        (abortSignals session ++
          [.asked action data true, .grabbed action true, .ran action set data false,
            .released action, .ended action]) none

namespace Stage

theorem openSession_declined {stage : Stage S} {action : Action} {data : ActionData}
    {desktop : Desktop}
    (hpre : action.behavior.pre data.state data stage.desktop = (false, desktop)) :
    stage.openSession action data =
      (false, { stage with desktop }.signal (.asked action data false)) := by
  simp [openSession, hpre]

theorem openSession_refused {stage : Stage S} {action : Action} {data : ActionData}
    {desktop : Desktop} {seat : S}
    (hpre : action.behavior.pre data.state data stage.desktop = (true, desktop))
    (hgrab : Seat.grab stage.seat = (false, seat)) :
    stage.openSession action data =
      (false,
        { seat, desktop := desktop.warn (.grabRefused action.info.name), session := stage.session
          journal := stage.journal ++ [.asked action data true, .grabbed action false] }) := by
  simp [openSession, hpre, hgrab, signal, withDesktop]

theorem openSession_granted {stage : Stage S} {action : Action} {data : ActionData}
    {desktop : Desktop} {seat : S}
    (hpre : action.behavior.pre data.state data stage.desktop = (true, desktop))
    (hgrab : Seat.grab stage.seat = (true, seat)) :
    stage.openSession action data =
      (true,
        { seat, desktop, session := some ⟨action, data.state⟩
          journal := stage.journal ++ [.asked action data true, .grabbed action true] }) := by
  simp [openSession, hpre, hgrab, signal]

theorem openSession_cases (stage : Stage S) (action : Action) (data : ActionData) :
    (∃ after, stage.openSession action data = (false, after) ∧ after.session = stage.session ∧
      stage.Writes [.asked action data false] after) ∨
    (∃ after, stage.openSession action data = (false, after) ∧ after.session = stage.session ∧
      stage.Writes [.asked action data true, .grabbed action false] after) ∨
    (∃ after, stage.openSession action data = (true, after) ∧
      after.session = some ⟨action, data.state⟩ ∧
      stage.Writes [.asked action data true, .grabbed action true] after) := by
  rcases hpre : action.behavior.pre data.state data stage.desktop with ⟨accepted, desktop⟩
  cases accepted with
  | false =>
      refine Or.inl ⟨_, openSession_declined hpre, rfl, rfl, ?_⟩
      simp [replay?, Signal.isGiven, Signal.effect, world, signal, hpre]
  | true =>
      rcases hgrab : Seat.grab stage.seat with ⟨granted, seat⟩
      cases granted with
      | false =>
          refine Or.inr (Or.inl ⟨_, openSession_refused hpre hgrab, rfl, rfl, ?_⟩)
          simp [replay?, Signal.isGiven, Signal.effect, world, hpre, hgrab]
      | true =>
          refine Or.inr (Or.inr ⟨_, openSession_granted hpre hgrab, rfl, rfl, ?_⟩)
          simp [replay?, Signal.isGiven, Signal.effect, world, hpre, hgrab]

theorem runAction_of_begun {stage middle : Stage S} {action : Action} {session : Session}
    (incoming : Option ClientSet) (data : ActionData)
    (interactive : action.info.interactive = true)
    (hbegin : stage.beginSession action data = (true, middle))
    (hsession : middle.session = some session) (haction : session.action = action) :
    (∃ after, stage.runAction action incoming data = (true, after) ∧
      after.session = some session ∧
      middle.Writes [.ran action (action.targetSet incoming data) data true] after) ∨
    (∃ after, stage.runAction action incoming data = (false, after) ∧ after.session = none ∧
      middle.Writes [.ran action (action.targetSet incoming data) data false,
        .released action, .ended action] after) := by
  have hcall := middle.writes_call action (action.targetSet incoming data) data
  have hkept := middle.session_call action (action.targetSet incoming data) data
  rcases hresult : middle.call action (action.targetSet incoming data) data with ⟨started, after⟩
  rw [hresult] at hcall hkept
  cases started with
  | true =>
      refine Or.inl ⟨after, ?_, hkept.trans hsession, hcall⟩
      simp only [runAction, interactive, if_true, hbegin, hresult]
  | false =>
      have hend := endSession_some (hkept.trans hsession)
      refine Or.inr ⟨after.close session, ?_, session_close _ _, ?_⟩
      · simp only [runAction, interactive, if_true, hbegin, hresult, hend]
      · have hclose := hcall.trans (writes_close after session)
        rw [haction] at hclose
        exact hclose

theorem beginSession_same {stage : Stage S} {action : Action} {session : Session}
    (data : ActionData) (hsession : stage.session = some session)
    (same : session.action.info.id = action.info.id) :
    stage.beginSession action data =
      (true, { stage with session := some { session with action } }) := by
  simp [beginSession, hsession, same]

theorem beginSession_other {stage : Stage S} {action : Action} (data : ActionData)
    (other : ∀ s ∈ stage.session, s.action.info.id ≠ action.info.id) :
    stage.beginSession action data = stage.cancel.openSession action data := by
  cases h : stage.session with
  | none => simp [beginSession, cancel, h]
  | some session =>
      have hne : session.action.info.id ≠ action.info.id := other session (by simp [h])
      simp [beginSession, h, hne]

theorem runAction_of_not_begun {stage middle : Stage S} {action : Action}
    (incoming : Option ClientSet) {data : ActionData}
    (interactive : action.info.interactive = true)
    (hbegin : stage.beginSession action data = (false, middle)) :
    stage.runAction action incoming data = (false, middle) := by
  simp only [runAction, interactive, if_true, hbegin]

theorem runAction_plain (stage : Stage S) {action : Action} (incoming : Option ClientSet)
    (data : ActionData) (plain : action.info.interactive = false) :
    stage.runAction action incoming data =
      (false, (stage.call action (action.targetSet incoming data) data).2) := by
  simp only [runAction, plain, Bool.false_eq_true, if_false]

theorem runAction_same {stage : Stage S} {action : Action} {session : Session}
    (incoming : Option ClientSet) (data : ActionData)
    (interactive : action.info.interactive = true) (hsession : stage.session = some session)
    (same : session.action.info.id = action.info.id) :
    ∃ new, stage.Writes new (stage.runAction action incoming data).2 ∧
      Turn action (action.targetSet incoming data) data (some session)
        (stage.runAction action incoming data).1 new
        (stage.runAction action incoming data).2.session := by
  have hbegin := beginSession_same data hsession same
  rcases runAction_of_begun incoming data interactive hbegin rfl rfl with
    ⟨after, heq, hafter, hw⟩ | ⟨after, heq, hafter, hw⟩
  · rw [heq, hafter]
    exact ⟨_, ⟨hw.journal, hw.world⟩, .continued interactive same⟩
  · rw [heq, hafter]
    exact ⟨_, ⟨hw.journal, hw.world⟩, .finished interactive same⟩

theorem runAction_other {stage : Stage S} {action : Action} (incoming : Option ClientSet)
    (data : ActionData) (interactive : action.info.interactive = true)
    (other : ∀ s ∈ stage.session, s.action.info.id ≠ action.info.id) :
    ∃ new, stage.Writes new (stage.runAction action incoming data).2 ∧
      Turn action (action.targetSet incoming data) data stage.session
        (stage.runAction action incoming data).1 new
        (stage.runAction action incoming data).2.session := by
  have habort := stage.writes_cancel
  have hnone : stage.cancel.session = none := stage.session_cancel
  have hbegin := beginSession_other data other
  rcases stage.cancel.openSession_cases action data with
    ⟨middle, hopen, hsession, hw⟩ | ⟨middle, hopen, hsession, hw⟩ | ⟨middle, hopen, hsession, hw⟩
  · rw [runAction_of_not_begun incoming interactive (hbegin.trans hopen), hsession, hnone]
    exact ⟨_, habort.trans hw, .declined interactive other⟩
  · rw [runAction_of_not_begun incoming interactive (hbegin.trans hopen), hsession, hnone]
    exact ⟨_, habort.trans hw, .refused interactive other⟩
  · rcases runAction_of_begun incoming data interactive (hbegin.trans hopen) hsession rfl with
      ⟨after, heq, hafter, hrun⟩ | ⟨after, heq, hafter, hrun⟩
    · rw [heq, hafter]
      exact ⟨_, habort.trans (hw.trans hrun), .opened interactive other⟩
    · rw [heq, hafter]
      exact ⟨_, habort.trans (hw.trans hrun), .fruitless interactive other⟩

/-- Everything that running one action can do is a turn. -/
theorem runAction_turn (stage : Stage S) (action : Action) (incoming : Option ClientSet)
    (data : ActionData) :
    ∃ new, stage.Writes new (stage.runAction action incoming data).2 ∧
      Turn action (action.targetSet incoming data) data stage.session
        (stage.runAction action incoming data).1 new
        (stage.runAction action incoming data).2.session := by
  by_cases interactive : action.info.interactive = true
  · by_cases same : ∃ s ∈ stage.session, s.action.info.id = action.info.id
    · obtain ⟨session, hsession, hid⟩ := same
      rw [hsession]
      exact runAction_same incoming data interactive hsession hid
    · exact runAction_other incoming data interactive fun s hs hid => same ⟨s, hs, hid⟩
  · have plain : action.info.interactive = false := by simpa using interactive
    rw [runAction_plain stage incoming data plain]
    exact ⟨_, stage.writes_call action _ data, .aside plain⟩

end Stage

/-- A run of entries: tests and turns, one behind the other, up to the first one that begins a
session. The arguments are those of a turn. -/
inductive Passage : Option Session → Bool → List Signal → Option Session → Prop
  | nil {session : Option Session} : Passage session false [] session
  | tested {before after : Option Session} {started : Bool} {new : List Signal} (isMatch : Bool)
      (branch : Passage before started new after) :
      Passage before started (.tested isMatch :: new) after
  | turn {before after : Option Session} {started : Bool} {new : List Signal} {action : Action}
      {set : Option ClientSet} {data : ActionData}
      (turn : Turn action set data before started new after) : Passage before started new after
  | next {before middle after : Option Session} {started : Bool} {new more : List Signal}
      (entry : Passage before false new middle) (entries : Passage middle started more after) :
      Passage before started (new ++ more) after

mutual

theorem runEntry_passage (stage : Stage S) (incoming : Option ClientSet) (data : ActionData) :
    ∀ entry, ∃ new, stage.Writes new (runEntry stage incoming data entry).2 ∧
      Passage stage.session (runEntry stage incoming data entry).1 new
        (runEntry stage incoming data entry).2.session
  | .action action => by
      obtain ⟨new, hw, hturn⟩ := stage.runAction_turn action incoming data
      rw [runEntry]
      exact ⟨new, hw, .turn hturn⟩
  | .conditional test accepted otherwise => by
      rw [runEntry]
      generalize conditionalSet test accepted stage.desktop.clients incoming data = set
      cases hmatch : set.isTrue stage.desktop.clients with
      | true =>
          obtain ⟨new, hw, hbranch⟩ :=
            runEntries_passage (stage.signal (.tested true)) (some set) data accepted
          exact ⟨_, (stage.writes_tested true).trans hw, .tested true hbranch⟩
      | false =>
          obtain ⟨new, hw, hbranch⟩ :=
            runEntries_passage (stage.signal (.tested false)) (some set) data otherwise
          exact ⟨_, (stage.writes_tested false).trans hw, .tested false hbranch⟩

theorem runEntries_passage (stage : Stage S) (incoming : Option ClientSet) (data : ActionData) :
    ∀ entries, ∃ new, stage.Writes new (runEntries stage incoming data entries).2 ∧
      Passage stage.session (runEntries stage incoming data entries).1 new
        (runEntries stage incoming data entries).2.session
  | [] => ⟨[], .refl stage, .nil⟩
  | entry :: entries => by
      obtain ⟨new, hw, hentry⟩ := runEntry_passage stage incoming data entry
      rw [runEntries]
      rcases hrun : runEntry stage incoming data entry with ⟨started, middle⟩
      rw [hrun] at hw hentry
      cases started with
      | true => exact ⟨new, hw, hentry⟩
      | false =>
          obtain ⟨more, hw', hentries⟩ := runEntries_passage middle incoming data entries
          exact ⟨_, hw.trans hw', .next hentry hentries⟩

end

namespace Stage

/-- Running an action list is a passage. -/
theorem runList_passage (stage : Stage S) (list : ActionList) (trigger : Trigger) :
    ∃ new, stage.Writes new (stage.runList list trigger).2 ∧
      Passage stage.session (stage.runList list trigger).1 new
        (stage.runList list trigger).2.session :=
  runEntries_passage stage none (trigger.data stage) list

end Stage

end WindowActions
