import WindowActions.Pattern.Engine
import WindowActions.Proofs.Builtin.Actions
import WindowActions.Proofs.Builtin.Filters
import WindowActions.Proofs.Session.Lockstep

/-!
# A session in the way of another

An interactive action aborts the session of another registration before it asks for one of its own,
so what it finds is the state from before the preview. A conditional around it has been evaluated by
then, and on the clients as the preview shows them. Only the focus differs, though: a chain that
does not look at it selects the same clients with the preview and without.
-/

namespace WindowActions

variable {S : Type} [Seat S]

/-- Two engines in the same state. Their journals may tell of different ways there. -/
structure Engine.Agrees (engine engine' : Engine S) : Prop where
  vocabulary : engine.vocabulary = engine'.vocabulary
  seat : engine.stage.seat = engine'.stage.seat
  desktop : engine.stage.desktop = engine'.stage.desktop
  session : engine.stage.session = engine'.stage.session

/-- A cycle does not look at anything in an event but the modifiers. -/
theorem Cycle.lockstep_same (slot : Nat) (direction : Direction) :
    (Cycle.behavior slot direction).Lockstep .same Eq where
  run {set set' data data' d d'} hset hdata hd := by
    have hset' : set = set' := by
      cases hset with
      | some h => rw [h.eq_of_same]
      | none => rfl
    subst hd hset'
    refine ⟨?_, ?_⟩ <;> simp only [behavior, run, hdata.state]
  pre _ hd := ⟨rfl, hd⟩
  input _ _ _ _ hd := by
    subst hd
    exact ⟨rfl, rfl⟩
  cancel hd := by rw [hd]
  post hd := by rw [hd]

theorem Action.IsBuiltin.lockstep_same {action : Action} (h : action.IsBuiltin)
    (hinteractive : action.info.interactive = true) : action.behavior.Lockstep .same Eq := by
  rcases h.cases with ⟨hplain, -⟩ | ⟨-, direction, hbehavior⟩
  · rw [hplain] at hinteractive
    cases hinteractive
  · rw [hbehavior]
    exact Cycle.lockstep_same action.info.id direction

theorem Behavior.IsPlain.post_cancel {behavior : Behavior} (h : behavior.IsPlain) (d : Desktop) :
    behavior.post (behavior.cancel d) = d := by
  cases h <;> rfl

/-- Bringing back the focus changes nothing about the clients but the focus. -/
theorem Cycle.twins_revert (slot : Nat) (d : Desktop) :
    d.clients.Twins .same ClientState.SameButFocus (revert slot d).clients := by
  refine d.clients.twins_mapLive fun c => ?_
  split <;> rfl

theorem Action.IsBuiltin.twins_abort {session : Session} (h : session.action.IsBuiltin)
    (d : Desktop) :
    d.clients.Twins .same ClientState.SameButFocus (d.abort (some session)).clients := by
  rcases h.cases with ⟨-, hplain⟩ | ⟨-, direction, hbehavior⟩
  · rw [Desktop.abort, hplain.post_cancel]
    exact d.clients.twins_refl fun _ => rfl
  · rw [Desktop.abort, hbehavior]
    exact Cycle.twins_revert session.action.info.id d

namespace Stage

variable {stage stage' : Stage S} {action : Action} {data data' : ActionData}

/-- Where another session is in the way, it is aborted first. -/
theorem runAction_other_eq (incoming : Option ClientSet) (data : ActionData)
    (hinteractive : action.info.interactive = true)
    (other : ∀ s ∈ stage.session, s.action.info.id ≠ action.info.id) :
    stage.runAction action incoming data = stage.cancel.runAction action incoming data := by
  have hnone : stage.cancel.session = none := stage.session_cancel
  have hbegin := beginSession_other data other
  have hbegin' : stage.cancel.beginSession action data = stage.cancel.openSession action data := by
    rw [beginSession, hnone]
  simp only [runAction, hinteractive, if_true, hbegin, hbegin']

/-- A signal before an abort leaves its trace in the journal only. -/
theorem beside_cancel_signal (stage : Stage S) (signal : Signal) :
    (stage.signal signal).cancel.Beside .same Eq stage.cancel := by
  have hnone : ∀ s ∈ (stage.signal signal).cancel.session, s.action.behavior.Lockstep .same Eq := by
    simp
  cases h : stage.session with
  | none =>
      have h' : (stage.signal signal).session = none := h
      rw [cancel, h'] at hnone ⊢
      rw [cancel, h]
      exact ⟨rfl, rfl, hnone, rfl⟩
  | some session =>
      have h' : (stage.signal signal).session = some session := h
      rw [cancel, h'] at hnone ⊢
      rw [cancel, h]
      exact ⟨rfl, rfl, hnone, rfl⟩

/-- What an action does where another session is in the way is what it does after an abort. -/
theorem runAction_takeover (hcancel : stage.cancel.Beside .same Eq stage')
    (haction : action.IsBuiltin) (hinteractive : action.info.interactive = true)
    (other : ∀ s ∈ stage.session, s.action.info.id ≠ action.info.id)
    (incoming : Option ClientSet) (hdata : data.Twins .same data') :
    Alongside (Stage.Beside .same Eq) (stage.runAction action incoming data)
      (stage'.runAction action incoming data') := by
  have hsame : Option.Rel (ClientSet.Twins .same) incoming incoming := by
    cases incoming with
    | none => exact .none
    | some set => exact .some set.twins_same
  rw [stage.runAction_other_eq incoming data hinteractive other]
  exact hcancel.runAction (fun _ h => by rw [h]) (haction.lockstep_same hinteractive) hdata hsame

end Stage

theorem runEntries_singleton (stage : Stage S) (incoming : Option ClientSet) (data : ActionData)
    (entry : Entry) :
    runEntries stage incoming data [entry] = runEntry stage incoming data entry := by
  rw [runEntries]
  rcases runEntry stage incoming data entry with ⟨started, after⟩
  cases started with
  | true => rfl
  | false => exact runEntries.eq_1 after incoming data

namespace Engine

variable {engine : Engine S} {action : Action} {chain : TestChain}

/-- An answer and the stage after it, as an answer of the engine. -/
def answer (engine : Engine S) (result : Bool × Stage S) : Bool × Engine S :=
  (result.1, { engine with stage := result.2 })

/-- Runs one action for the clients of a set. -/
def runFor (engine : Engine S) (action : Action) (set : ClientSet) (trigger : Trigger) :
    Bool × Engine S :=
  engine.answer (engine.stage.runAction action (some set) (trigger.data engine.stage))

omit [Seat S] in
theorem agrees_answer {engine' : Engine S} {result result' : Bool × Stage S}
    (hvocabulary : engine.vocabulary = engine'.vocabulary)
    (h : Alongside (Stage.Beside .same Eq) result result') :
    Alongside Agrees (engine.answer result) (engine'.answer result') :=
  ⟨h.1, hvocabulary, h.2.seat, h.2.desktop, h.2.session⟩

theorem run_action (engine : Engine S) (action : Action) (trigger : Trigger) :
    engine.run [.action action] trigger =
      engine.answer (engine.stage.runAction action none (trigger.data engine.stage)) := by
  rw [run, Stage.runList, runEntries_singleton, runEntry]
  rfl

variable (trigger : Trigger)

theorem run_conditional_of_false
    (h : (chain.evaluate engine.stage.desktop.clients none).isTrue engine.stage.desktop.clients =
      false) :
    engine.run [.conditional (some chain) [.action action] []] trigger =
      engine.answer (false, engine.stage.signal (.tested false)) := by
  rw [run, Stage.runList, runEntries_singleton, runEntry]
  simp only [conditionalSet, h, Bool.false_eq_true, if_false, runEntries]
  rfl

theorem run_conditional_of_true
    (h : (chain.evaluate engine.stage.desktop.clients none).isTrue engine.stage.desktop.clients =
      true) :
    engine.run [.conditional (some chain) [.action action] []] trigger =
      engine.answer ((engine.stage.signal (.tested true)).runAction action
        (some (chain.evaluate engine.stage.desktop.clients none)) (trigger.data engine.stage)) := by
  rw [run, Stage.runList, runEntries_singleton, runEntry]
  simp only [conditionalSet, h, if_true, runEntries_singleton]
  rw [runEntry]
  rfl

/-- An interactive action that meets the session of another registration does what it does after an
abort of that session, for the clients that a conditional around it has selected before. If nobody
is selected, it is not reached and the session goes on. A chain of builtin filters selects the same
clients after the abort, unless it looks at the focus. -/
theorem takeover_after_cancel [PatternEngine] (engine : Engine S) {session : Session}
    {action : Action} (hsession : engine.stage.session = some session)
    (hbuiltin : session.action.IsBuiltin) (haction : action.IsBuiltin)
    (hinteractive : action.info.interactive = true)
    (hother : session.action.info.id ≠ action.info.id) (trigger : Trigger) :
    Alongside Agrees (engine.run [.action action] trigger)
      (engine.cancel.run [.action action] trigger) ∧
    ∀ chain : TestChain,
      let list : ActionList := [.conditional (some chain) [.action action] []]
      let set := chain.evaluate engine.stage.desktop.clients none
      (set.isTrue engine.stage.desktop.clients = false →
        Alongside Agrees (engine.run list trigger) (false, engine)) ∧
      (set.isTrue engine.stage.desktop.clients = true →
        Alongside Agrees (engine.run list trigger) (engine.cancel.runFor action set trigger) ∧
        (chain.Only (fun f => f.IsBuiltin ∧ f.info.name ≠ "focused") →
          Alongside Agrees (engine.run list trigger) (engine.cancel.run list trigger))) := by
  have hdata : (trigger.data engine.stage).Twins .same (trigger.data engine.stage.cancel) := by
    refine ⟨rfl, ?_⟩
    show Option.Rel Eq trigger.client trigger.client
    cases trigger.client with
    | none => exact .none
    | some r => exact .some rfl
  have other : ∀ s ∈ engine.stage.session, s.action.info.id ≠ action.info.id := by
    rw [hsession]
    rintro s ⟨⟩
    exact hother
  constructor
  · have hcancel : engine.stage.cancel.Beside .same Eq engine.stage.cancel :=
      ⟨rfl, rfl, by simp, rfl⟩
    rw [run_action, run_action]
    exact agrees_answer rfl (Stage.runAction_takeover hcancel haction hinteractive other none hdata)
  intro chain list set
  refine ⟨fun hnobody => ?_, fun hsome => ⟨?_, fun hchain => ?_⟩⟩
  · rw [run_conditional_of_false trigger hnobody]
    exact ⟨rfl, rfl, rfl, rfl, rfl⟩
  · rw [run_conditional_of_true trigger hsome]
    exact agrees_answer rfl (Stage.runAction_takeover (engine.stage.beside_cancel_signal _) haction
      hinteractive other (some set) hdata)
  · have htwins : engine.stage.desktop.clients.Twins .same ClientState.SameButFocus
        engine.cancel.stage.desktop.clients := by
      show ClientStore.Twins _ _ _ engine.stage.cancel.desktop.clients
      rw [Stage.desktop_cancel, hsession]
      exact hbuiltin.twins_abort engine.stage.desktop
    have hrespects : chain.Only (·.Respects ClientState.SameButFocus) := fun term hterm f hf =>
      (hchain term hterm f hf).1.respects_sameButFocus (hchain term hterm f hf).2
    have hset := chain.evaluate_twins htwins .none hrespects
    have hsome' := (hset.isTrue htwins).symm.trans hsome
    have hsignal := engine.stage.beside_cancel_signal (.tested true)
    have hcancel : (engine.stage.signal (.tested true)).cancel.Beside .same Eq
        (engine.stage.cancel.signal (.tested true)) :=
      ⟨hsignal.seat, hsignal.session, hsignal.lockstep, hsignal.desktop⟩
    rw [run_conditional_of_true trigger hsome, run_conditional_of_true trigger hsome',
      ← hset.eq_of_same]
    exact agrees_answer rfl (Stage.runAction_takeover hcancel haction hinteractive other (some set)
      hdata)

/-- In the middle of a session of `NextWindow`, `PreviousWindow` for the urgent clients. -/
theorem takeover_after_cancel_urgent :
    let clients : ClientStore :=
      .ofSpecs [⟨1, { focused := true, urgent := true }⟩, ⟨2, {}⟩, ⟨3, { urgent := true }⟩]
    let engine : Engine HeadlessSeat :=
      (Engine.run ⟨.builtin, { seat := {}, desktop := { clients } }⟩
        [.action (.nextWindow 4)] { state := 8 }).2
    let urgent : Filter := ⟨⟨1, "urgent"⟩, false, none, .matching (·.state.urgent)⟩
    let list : ActionList :=
      [.conditional (some [⟨some urgent, .and⟩]) [.action (.previousWindow 5)] []]
    engine.stage.isRunning = true ∧
    Alongside Agrees (engine.run list { state := 8 }) (engine.cancel.run list { state := 8 }) := by
  intro clients engine urgent list
  have hsession : engine.stage.session = some ⟨.nextWindow 4, 8⟩ := rfl
  have htakeover := takeover_after_cancel engine hsession (Action.isBuiltin_nextWindow 4)
    (Action.isBuiltin_previousWindow 5) rfl (by decide) { state := 8 }
  have hurgent : urgent.IsBuiltin := ⟨_, List.mem_of_getElem? (i := 1) rfl, rfl, rfl⟩
  refine ⟨by decide, ((htakeover.2 [⟨some urgent, .and⟩]).2 (by decide)).2 ?_⟩
  rintro term hterm f hf
  rw [List.mem_singleton.1 hterm, Option.mem_some_iff] at hf
  exact hf ▸ ⟨hurgent, by decide⟩

/-- A chain that looks at the focus selects the client that is previewed, and then the session of
the competing action stays with it. -/
theorem takeover_differs :
    ¬ ∀ (clients : ClientStore) (chain : TestChain), chain.Only Filter.IsBuiltin →
      let engine : Engine HeadlessSeat :=
        (Engine.run ⟨.builtin, { seat := {}, desktop := { clients } }⟩
          [.action (.nextWindow 4)] { state := 8 }).2
      let list : ActionList := [.conditional (some chain) [.action (.previousWindow 5)] []]
      engine.stage.isRunning = true →
        Alongside Agrees (engine.run list { state := 8 })
          (engine.cancel.run list { state := 8 }) := by
  intro h
  have hfocused : Filter.IsBuiltin ⟨⟨2, "focused"⟩, false, none, .matching (·.state.focused)⟩ :=
    ⟨_, List.mem_of_getElem? (i := 2) rfl, rfl, rfl⟩
  have hagrees := h (.ofSpecs [⟨1, { focused := true }⟩, ⟨2, {}⟩, ⟨3, {}⟩])
    [⟨some ⟨⟨2, "focused"⟩, false, none, .matching (·.state.focused)⟩, .and⟩]
    (by simpa [TestChain.Only] using hfocused) (by decide)
  have hspecs := congrArg (fun d => d.clients.specs) hagrees.2.desktop
  revert hspecs
  decide

end Engine

end WindowActions
