import WindowActions.Proofs.Session.Calls

/-!
# What a run does not look at

A list runs without its options and without the values of its filters: behaviors and rules have been
made of them when the program was read. `bare` forgets them, in lists, sessions and journals, and
commutes with everything that a stage does.
-/

namespace WindowActions

def Action.bare (action : Action) : Action := { action with options := [] }

def Filter.bare (f : Filter) : Filter := { f with value := none }

def Term.bare (term : Term) : Term := { term with filter := term.filter.map Filter.bare }

mutual

/-- The entry without its options and the values of its filters. -/
def Entry.bare : Entry → Entry
  | .action action => .action action.bare
  | .conditional test accepted otherwise =>
    .conditional (test.map (·.map Term.bare)) (bareEntries accepted) (bareEntries otherwise)

def bareEntries : List Entry → List Entry
  | [] => []
  | entry :: entries => entry.bare :: bareEntries entries

end

def Session.bare (session : Session) : Session := { session with action := session.action.bare }

@[simp] theorem Action.info_bare (action : Action) : action.bare.info = action.info := rfl

/-- The signal without the options of the action that it is about. -/
def Signal.bare : Signal → Signal
  | .tested isMatch => .tested isMatch
  | .asked action data accepted => .asked action.bare data accepted
  | .grabbed action granted => .grabbed action.bare granted
  | .ran action set data started => .ran action.bare set data started
  | .gotInput action initial event outcome => .gotInput action.bare initial event outcome
  | .cancelled action => .cancelled action.bare
  | .released action => .released action.bare
  | .ended action => .ended action.bare

theorem Signal.bare_bare (signal : Signal) : signal.bare.bare = signal.bare := by
  cases signal <;> rfl

variable {S : Type}

/-- The stage without the options that its session and its journal know of. -/
def Stage.bare (stage : Stage S) : Stage S :=
  { stage with session := stage.session.map Session.bare, journal := stage.journal.map Signal.bare }

theorem Stage.session_bare (stage : Stage S) :
    stage.bare.session = stage.session.map Session.bare := rfl

section Selection

theorem Term.select_bare (term : Term) (store : ClientStore) (incoming : Option ClientSet) :
    term.bare.select store incoming = term.select store incoming := by
  obtain ⟨filter, joint⟩ := term
  cases filter <;> cases incoming <;> rfl

theorem TestChain.groups_bare (chain : TestChain) :
    TestChain.groups (chain.map Term.bare) = chain.groups.map (·.map Term.bare) := by
  induction chain with
  | nil => rfl
  | cons term terms ih =>
      rw [List.map_cons, groups, groups, ih]
      cases hgroups : TestChain.groups terms with
      | nil => cases hjoint : term.joint <;> simp [Term.bare, hjoint]
      | cons group others => cases hjoint : term.joint <;> simp [Term.bare, hjoint]

theorem TestChain.selectGroup_bare (store : ClientStore) (incoming : Option ClientSet)
    (group : List Term) :
    selectGroup store incoming (group.map Term.bare) = selectGroup store incoming group := by
  simp [selectGroup, Term.select_bare, Function.comp_def]

theorem TestChain.evaluate_bare (chain : TestChain) (store : ClientStore)
    (incoming : Option ClientSet) :
    TestChain.evaluate (chain.map Term.bare) store incoming = chain.evaluate store incoming := by
  simp only [evaluate, groups_bare, List.map_map, Function.comp_def, selectGroup_bare]

theorem conditionalSet_bare (test : Option TestChain) (accepted : ActionList) (store : ClientStore)
    (incoming : Option ClientSet) (data : ActionData) :
    conditionalSet (test.map (·.map Term.bare)) (bareEntries accepted) store incoming data =
      conditionalSet test accepted store incoming data := by
  cases test with
  | some chain => exact chain.evaluate_bare store incoming
  | none =>
      cases incoming with
      | some set => rfl
      | none =>
          -- Of the first branch only the definition of its first action matters.
          match accepted with
          | [] => simp [conditionalSet, bareEntries]
          | .action action :: entries => simp [conditionalSet, bareEntries, Entry.bare, Action.bare]
          | .conditional test accepted otherwise :: entries =>
              simp [conditionalSet, bareEntries, Entry.bare]

end Selection

section Runs

variable [Seat S]

namespace Stage

variable (stage : Stage S) (action : Action) (data : ActionData)

omit [Seat S] in
theorem bare_signal (signal : Signal) :
    (stage.signal signal).bare = stage.bare.signal signal.bare := by
  simp [bare, Stage.signal]

omit [Seat S] in
theorem bare_withDesktop (f : Desktop → Desktop) :
    (stage.withDesktop f).bare = stage.bare.withDesktop f := rfl

theorem bare_close (session : Session) :
    (stage.close session).bare = stage.bare.close session.bare := by
  simp only [close, bare_signal, bare_withDesktop]
  rfl

theorem bare_endSession : stage.endSession.bare = stage.bare.endSession := by
  cases h : stage.session with
  | none => simp [endSession, bare, h]
  | some session =>
      have hbare : stage.bare.session = some session.bare := by simp [bare, h]
      simp only [endSession, h, hbare, bare_close]

theorem bare_cancel : stage.cancel.bare = stage.bare.cancel := by
  cases h : stage.session with
  | none => simp [cancel, bare, h]
  | some session =>
      have hbare : stage.bare.session = some session.bare := by simp [bare, h]
      simp only [cancel, h, hbare, bare_close, bare_signal, bare_withDesktop]
      rfl

omit [Seat S] in
theorem bare_hear (session : Session) (event : InputEvent) :
    stage.bare.hear session.bare event = (stage.hear session event).map id bare := by
  simp only [hear, Prod.map_apply, bare_signal]
  rfl

theorem bare_input (event : InputEvent) :
    stage.bare.input event = (stage.input event).map id bare := by
  cases h : stage.session with
  | none => simp [input, bare, h]
  | some session =>
      have hbare : stage.bare.session = some session.bare := by simp [bare, h]
      simp only [input, h, hbare, bare_hear, Prod.map_fst, Prod.map_snd, id_eq]
      split
      · rfl
      · rw [Prod.map_apply, bare_endSession]
        rfl

omit [Seat S] in
theorem bare_call (set : Option ClientSet) :
    stage.bare.call action.bare set data = (stage.call action set data).map id bare := by
  simp only [call, Prod.map_apply, bare_signal]
  rfl

theorem bare_openSession :
    stage.bare.openSession action.bare data = (stage.openSession action data).map id bare := by
  rcases hpre : action.behavior.pre data.state data stage.desktop with ⟨accepted, desktop⟩
  have hpre' : action.bare.behavior.pre data.state data stage.bare.desktop = (accepted, desktop) :=
    hpre
  cases accepted with
  | false =>
      rw [openSession_declined hpre, openSession_declined hpre', Prod.map_apply, bare_signal]
      rfl
  | true =>
      rcases hgrab : Seat.grab stage.seat with ⟨granted, seat⟩
      have hgrab' : Seat.grab stage.bare.seat = (granted, seat) := hgrab
      cases granted with
      | false =>
          rw [openSession_refused hpre hgrab, openSession_refused hpre' hgrab']
          simp [bare, Signal.bare, Action.bare]
      | true =>
          rw [openSession_granted hpre hgrab, openSession_granted hpre' hgrab']
          simp [bare, Signal.bare, Session.bare]

theorem bare_beginSession :
    stage.bare.beginSession action.bare data = (stage.beginSession action data).map id bare := by
  by_cases same : ∃ s, stage.session = some s ∧ s.action.info.id = action.info.id
  · obtain ⟨s, hsession, hid⟩ := same
    have hbare : stage.bare.session = some s.bare := by simp [session_bare, hsession]
    have hid' : s.bare.action.info.id = action.bare.info.id := hid
    rw [beginSession_same data hsession hid, beginSession_same data hbare hid']
    rfl
  · have other : ∀ s ∈ stage.session, s.action.info.id ≠ action.info.id :=
      fun s hs hid => same ⟨s, hs, hid⟩
    have other' : ∀ s ∈ stage.bare.session, s.action.info.id ≠ action.bare.info.id := by
      rw [session_bare]
      intro s hs
      obtain ⟨before, hbefore, rfl⟩ := Option.map_eq_some_iff.1 hs
      exact other before hbefore
    rw [beginSession_other data other, beginSession_other data other', ← bare_cancel,
      bare_openSession]

theorem bare_runAction (incoming : Option ClientSet) :
    stage.bare.runAction action.bare incoming data =
      (stage.runAction action incoming data).map id bare := by
  have htarget : action.bare.targetSet incoming data = action.targetSet incoming data := rfl
  cases hinteractive : action.info.interactive with
  | false =>
      have hplain : action.bare.info.interactive = false := hinteractive
      rw [runAction_plain _ _ _ hinteractive, runAction_plain _ _ _ hplain, htarget, bare_call]
      rfl
  | true =>
      have hbegin := stage.bare_beginSession action data
      rcases hbegun : stage.beginSession action data with ⟨begun, middle⟩
      rw [hbegun, Prod.map_apply, id_eq] at hbegin
      simp only [runAction, htarget, hbegin, hbegun, Action.info_bare, hinteractive]
      cases begun with
      | false => rfl
      | true =>
          have hcall := middle.bare_call action data (action.targetSet incoming data)
          rcases hran : middle.call action (action.targetSet incoming data) data with
            ⟨started, after⟩
          rw [hran, Prod.map_apply, id_eq] at hcall
          simp only [hcall, hran]
          cases started with
          | true => rfl
          | false => simp [bare_endSession]

end Stage

mutual

theorem bare_runEntry (stage : Stage S) (incoming : Option ClientSet) (data : ActionData) :
    ∀ entry : Entry, runEntry stage.bare incoming data entry.bare =
      (runEntry stage incoming data entry).map id Stage.bare
  | .action action => by
      rw [Entry.bare, runEntry, runEntry, Stage.bare_runAction]
  | .conditional test accepted otherwise => by
      have hset := conditionalSet_bare test accepted stage.desktop.clients incoming data
      have hdesktop : stage.bare.desktop = stage.desktop := rfl
      rw [Entry.bare, runEntry, runEntry]
      simp only [hdesktop, hset]
      generalize conditionalSet test accepted stage.desktop.clients incoming data = set
      have htested := stage.bare_signal (.tested (set.isTrue stage.desktop.clients))
      rw [Signal.bare] at htested
      rw [← htested]
      split
      · exact bare_runEntries _ _ _ accepted
      · exact bare_runEntries _ _ _ otherwise

theorem bare_runEntries (stage : Stage S) (incoming : Option ClientSet) (data : ActionData) :
    ∀ entries : List Entry, runEntries stage.bare incoming data (bareEntries entries) =
      (runEntries stage incoming data entries).map id Stage.bare
  | [] => by
      rw [bareEntries, runEntries, runEntries]
      rfl
  | entry :: entries => by
      have hentry := bare_runEntry stage incoming data entry
      rw [bareEntries, runEntries, runEntries, hentry]
      rcases runEntry stage incoming data entry with ⟨started, middle⟩
      cases started with
      | true => rfl
      | false => exact bare_runEntries middle incoming data entries

end

theorem Stage.bare_runList (stage : Stage S) (list : ActionList) (trigger : Trigger) :
    stage.bare.runList (bareEntries list) trigger =
      (stage.runList list trigger).map id Stage.bare :=
  bare_runEntries stage none (trigger.data stage) list

end Runs

end WindowActions
