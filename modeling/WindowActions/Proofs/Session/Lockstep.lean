import WindowActions.Proofs.Selection.Twins
import WindowActions.Proofs.Session.Deed

/-!
# Two stages in step

Two stages with the same seat and the same session, whose desktops are related in some way, stay so
while the same list runs on both, provided that the behaviors of its actions keep the desktops
related and give the same answers on both sides. That is what `Behavior.Lockstep` says of a
behavior and `Stage.Beside` of two stages. The journals are left aside: they tell about clients by
their references, and these need not be the same.
-/

namespace WindowActions

/-- The same answer, and related results. -/
def Alongside {α β : Type} (R : β → β → Prop) (x y : α × β) : Prop := x.1 = y.1 ∧ R x.2 y.2

/-- Two events with the same modifiers that were meant for paired clients. -/
structure ActionData.Twins (p : Pairing) (data data' : ActionData) : Prop where
  state : data.state = data'.state
  client : Option.Rel p.Pairs data.client data'.client

theorem Action.targetSet_twins {p : Pairing} (action : Action)
    {incoming incoming' : Option ClientSet} {data data' : ActionData}
    (hin : Option.Rel (ClientSet.Twins p) incoming incoming') (hdata : data.Twins p data') :
    Option.Rel (ClientSet.Twins p) (action.targetSet incoming data)
      (action.targetSet incoming' data') := by
  cases hin with
  | some hset => exact .some hset
  | none => exact action.info.defaultSet.clients_twins hdata.client

/-- On related desktops and for twins, the behavior gives the same answers and leaves related
desktops. -/
structure Behavior.Lockstep (p : Pairing) (D : Desktop → Desktop → Prop)
    (behavior : Behavior) : Prop where
  run : ∀ {set set' data data' d d'}, Option.Rel (ClientSet.Twins p) set set' →
    ActionData.Twins p data data' → D d d' →
      Alongside D (behavior.run set data d) (behavior.run set' data' d')
  pre : ∀ {data data' d d'}, ActionData.Twins p data data' → D d d' →
    Alongside D (behavior.pre data.state data d) (behavior.pre data'.state data' d')
  input : ∀ initial event {d d'}, D d d' →
    Alongside D (behavior.input initial event d) (behavior.input initial event d')
  cancel : ∀ {d d'}, D d d' → D (behavior.cancel d) (behavior.cancel d')
  post : ∀ {d d'}, D d d' → D (behavior.post d) (behavior.post d')

variable {S : Type} [Seat S] {p : Pairing} {D : Desktop → Desktop → Prop}

/-- Stages with the same seat and the same session, and with related desktops. -/
structure Stage.Beside (p : Pairing) (D : Desktop → Desktop → Prop) (stage stage' : Stage S) :
    Prop where
  seat : stage.seat = stage'.seat
  session : stage.session = stage'.session
  lockstep : ∀ s ∈ stage.session, s.action.behavior.Lockstep p D
  desktop : D stage.desktop stage'.desktop

namespace Stage.Beside

variable {stage stage' : Stage S} {action : Action} {data data' : ActionData}

omit [Seat S] in
theorem isRunning (h : stage.Beside p D stage') : stage.isRunning = stage'.isRunning :=
  congrArg Option.isSome h.session

omit [Seat S] in
theorem signal (h : stage.Beside p D stage') (signal signal' : Signal) :
    (stage.signal signal).Beside p D (stage'.signal signal') :=
  ⟨h.seat, h.session, h.lockstep, h.desktop⟩

theorem close (h : stage.Beside p D stage') {session : Session}
    (hsession : session.action.behavior.Lockstep p D) :
    (stage.close session).Beside p D (stage'.close session) :=
  ⟨congrArg Seat.release h.seat, rfl, by simp, hsession.post h.desktop⟩

theorem endSession (h : stage.Beside p D stage') :
    stage.endSession.Beside p D stage'.endSession := by
  cases hsession : stage.session with
  | none =>
      have hsession' : stage'.session = none := h.session.symm.trans hsession
      rwa [Stage.endSession, hsession, Stage.endSession, hsession']
  | some session =>
      rw [endSession_some hsession, endSession_some (h.session.symm.trans hsession)]
      exact h.close (h.lockstep session hsession)

theorem cancel (h : stage.Beside p D stage') : stage.cancel.Beside p D stage'.cancel := by
  cases hsession : stage.session with
  | none =>
      have hsession' : stage'.session = none := h.session.symm.trans hsession
      rwa [Stage.cancel, hsession, Stage.cancel, hsession']
  | some session =>
      have hlockstep := h.lockstep session hsession
      have hcancelled : (stage.withDesktop session.action.behavior.cancel).Beside p D
          (stage'.withDesktop session.action.behavior.cancel) :=
        ⟨h.seat, h.session, h.lockstep, hlockstep.cancel h.desktop⟩
      rw [Stage.cancel, hsession, Stage.cancel, h.session.symm.trans hsession]
      exact (hcancelled.signal _ _).close hlockstep

theorem input (h : stage.Beside p D stage') (event : InputEvent) :
    Alongside (Stage.Beside p D) (stage.input event) (stage'.input event) := by
  cases hsession : stage.session with
  | none =>
      rw [input_none hsession, input_none (h.session.symm.trans hsession)]
      exact ⟨rfl, h⟩
  | some session =>
      have hheard := (h.lockstep session hsession).input session.initialState event h.desktop
      have hafter : (stage.hear session event).2.Beside p D (stage'.hear session event).2 :=
        ⟨h.seat, h.session, h.lockstep, hheard.2⟩
      have houtcome : (stage.hear session event).1 = (stage'.hear session event).1 := hheard.1
      simp only [Stage.input, hsession, h.session.symm.trans hsession, houtcome]
      refine ⟨rfl, ?_⟩
      split
      · exact hafter
      · exact hafter.endSession

variable (hwarn : ∀ {d d'} warning, D d d' → D (d.warn warning) (d'.warn warning))
  (haction : action.behavior.Lockstep p D) (hdata : data.Twins p data')

include haction hdata in
omit [Seat S] in
theorem call (h : stage.Beside p D stage') {set set' : Option ClientSet}
    (hset : Option.Rel (ClientSet.Twins p) set set') :
    Alongside (Stage.Beside p D) (stage.call action set data) (stage'.call action set' data') := by
  have hran := haction.run hset hdata h.desktop
  exact ⟨hran.1, h.seat, h.session, h.lockstep, hran.2⟩

include hwarn haction hdata

theorem openSession (h : stage.Beside p D stage') :
    Alongside (Stage.Beside p D) (stage.openSession action data)
      (stage'.openSession action data') := by
  have hasked := haction.pre hdata h.desktop
  rcases hpre : action.behavior.pre data.state data stage.desktop with ⟨accepted, d⟩
  rcases hpre' : action.behavior.pre data'.state data' stage'.desktop with ⟨accepted', d'⟩
  rw [hpre, hpre'] at hasked
  obtain ⟨rfl, hd⟩ := hasked
  cases accepted with
  | false =>
      rw [openSession_declined hpre, openSession_declined hpre']
      exact ⟨rfl, h.seat, h.session, h.lockstep, hd⟩
  | true =>
      rcases hgrab : Seat.grab stage.seat with ⟨granted, seat⟩
      have hgrab' := hgrab
      rw [h.seat] at hgrab'
      cases granted with
      | false =>
          rw [openSession_refused hpre hgrab, openSession_refused hpre' hgrab']
          exact ⟨rfl, rfl, h.session, h.lockstep, hwarn _ hd⟩
      | true =>
          rw [openSession_granted hpre hgrab, openSession_granted hpre' hgrab', hdata.state]
          refine ⟨rfl, rfl, rfl, ?_, hd⟩
          rintro s ⟨⟩
          exact haction

theorem beginSession (h : stage.Beside p D stage') :
    Alongside (Stage.Beside p D) (stage.beginSession action data)
      (stage'.beginSession action data') := by
  by_cases same : ∃ s, stage.session = some s ∧ s.action.info.id = action.info.id
  · obtain ⟨s, hsession, hid⟩ := same
    rw [beginSession_same data hsession hid,
      beginSession_same data' (h.session.symm.trans hsession) hid]
    refine ⟨rfl, h.seat, rfl, ?_, h.desktop⟩
    rintro s ⟨⟩
    exact haction
  · have other : ∀ s ∈ stage.session, s.action.info.id ≠ action.info.id :=
      fun s hs hid => same ⟨s, hs, hid⟩
    rw [beginSession_other data other, beginSession_other data' (h.session ▸ other)]
    exact h.cancel.openSession hwarn haction hdata

theorem runAction (h : stage.Beside p D stage') {incoming incoming' : Option ClientSet}
    (hin : Option.Rel (ClientSet.Twins p) incoming incoming') :
    Alongside (Stage.Beside p D) (stage.runAction action incoming data)
      (stage'.runAction action incoming' data') := by
  have hset := action.targetSet_twins hin hdata
  cases hinteractive : action.info.interactive with
  | false =>
      rw [runAction_plain _ _ _ hinteractive, runAction_plain _ _ _ hinteractive]
      exact ⟨rfl, (h.call haction hdata hset).2⟩
  | true =>
      have hbegin := h.beginSession hwarn haction hdata
      rcases hbegun : stage.beginSession action data with ⟨begun, middle⟩
      rcases hbegun' : stage'.beginSession action data' with ⟨begun', middle'⟩
      rw [hbegun, hbegun'] at hbegin
      obtain ⟨rfl, hmiddle⟩ := hbegin
      cases begun with
      | false =>
          rw [runAction_of_not_begun _ hinteractive hbegun,
            runAction_of_not_begun _ hinteractive hbegun']
          exact ⟨rfl, hmiddle⟩
      | true =>
          have hcall := hmiddle.call haction hdata hset
          simp only [Stage.runAction, hinteractive, if_true, hbegun, hbegun']
          rcases hran : middle.call action (action.targetSet incoming data) data with
            ⟨started, after⟩
          rcases hran' : middle'.call action (action.targetSet incoming' data') data' with
            ⟨started', after'⟩
          rw [hran, hran'] at hcall
          obtain ⟨rfl, hafter⟩ := hcall
          cases started with
          | true => exact ⟨rfl, hafter⟩
          | false => exact ⟨rfl, hafter.endSession⟩

end Stage.Beside

mutual

/-- All filters that an entry tests, in whichever branch, have a property. -/
def Entry.Tests (q : Filter → Prop) : Entry → Prop
  | .action _ => True
  | .conditional test accepted otherwise =>
    (∀ chain ∈ test, TestChain.Only q chain) ∧ entriesTest q accepted ∧ entriesTest q otherwise

/-- All filters that the entries of a list test, in whichever branch, have a property. -/
def entriesTest (q : Filter → Prop) : List Entry → Prop
  | [] => True
  | entry :: entries => entry.Tests q ∧ entriesTest q entries

end

mutual

theorem Entry.Tests.mono {q q' : Filter → Prop} (h : ∀ f, q f → q' f) :
    ∀ {entry : Entry}, entry.Tests q → entry.Tests q'
  | .action _, _ => trivial
  | .conditional _ _ _, hentry => by
      rw [Entry.Tests] at hentry ⊢
      exact ⟨fun chain hchain term hterm f hf => h f (hentry.1 chain hchain term hterm f hf),
        entriesTest_mono h hentry.2.1, entriesTest_mono h hentry.2.2⟩

theorem entriesTest_mono {q q' : Filter → Prop} (h : ∀ f, q f → q' f) :
    ∀ {entries : List Entry}, entriesTest q entries → entriesTest q' entries
  | [], _ => trivial
  | _ :: _, hentries => by
      rw [entriesTest] at hentries ⊢
      exact ⟨Entry.Tests.mono h hentries.1, entriesTest_mono h hentries.2⟩

end

/-- A relation between desktops whose clients are twins, which the same warning on both sides
preserves. -/
structure Desktop.Likens (p : Pairing) (alike : ClientState → ClientState → Prop)
    (D : Desktop → Desktop → Prop) : Prop where
  clients : ∀ {d d'}, D d d' → d.clients.Twins p alike d'.clients
  warn : ∀ {d d'} warning, D d d' → D (d.warn warning) (d'.warn warning)

section Run

variable {alike : ClientState → ClientState → Prop} {data data' : ActionData}

mutual

theorem runEntry_beside (hD : Desktop.Likens p alike D) (hdata : data.Twins p data')
    {stage stage' : Stage S} {incoming incoming' : Option ClientSet}
    (h : stage.Beside p D stage') (hin : Option.Rel (ClientSet.Twins p) incoming incoming') :
    ∀ entry : Entry, entry.Only (·.behavior.Lockstep p D) → entry.Tests (·.Respects alike) →
      Alongside (Stage.Beside p D) (runEntry stage incoming data entry)
        (runEntry stage' incoming' data' entry)
  | .action action, honly, _ => by
      rw [runEntry, runEntry]
      exact h.runAction hD.warn honly hdata hin
  | .conditional test accepted otherwise, honly, htests => by
      rw [Entry.Only] at honly
      rw [Entry.Tests] at htests
      have hset := conditionalSet_twins (hD.clients h.desktop) hin htests.1 accepted hdata.client
      have hmatched := hset.isTrue (hD.clients h.desktop)
      rw [runEntry, runEntry]
      simp only [hmatched]
      split
      · exact runEntries_beside hD hdata (h.signal _ _) (.some hset) accepted honly.1 htests.2.1
      · exact runEntries_beside hD hdata (h.signal _ _) (.some hset) otherwise honly.2 htests.2.2

theorem runEntries_beside (hD : Desktop.Likens p alike D) (hdata : data.Twins p data')
    {stage stage' : Stage S} {incoming incoming' : Option ClientSet}
    (h : stage.Beside p D stage') (hin : Option.Rel (ClientSet.Twins p) incoming incoming') :
    ∀ entries : List Entry, entriesOnly (·.behavior.Lockstep p D) entries →
      entriesTest (·.Respects alike) entries →
      Alongside (Stage.Beside p D) (runEntries stage incoming data entries)
        (runEntries stage' incoming' data' entries)
  | [], _, _ => by
      rw [runEntries, runEntries]
      exact ⟨rfl, h⟩
  | entry :: entries, honly, htests => by
      rw [entriesOnly] at honly
      rw [entriesTest] at htests
      have hentry := runEntry_beside hD hdata h hin entry honly.1 htests.1
      rw [runEntries, runEntries]
      rcases hrun : runEntry stage incoming data entry with ⟨started, middle⟩
      rcases hrun' : runEntry stage' incoming' data' entry with ⟨started', middle'⟩
      rw [hrun, hrun'] at hentry
      obtain ⟨rfl, hmiddle⟩ := hentry
      cases started with
      | true => exact ⟨rfl, hmiddle⟩
      | false => exact runEntries_beside hD hdata hmiddle hin entries honly.2 htests.2

end

end Run

end WindowActions
