import WindowActions.Proofs.Session.Calls

/-!
# What happens on the desktop

A turn says what running an action does to the session. `Deed` says besides what it does to the
desktop, in the functions that the behavior of the action consists of. The seat has its part in it
only by granting the keyboard or not.

What a run of an action list preserves is shown by `RunInvariant`: it is enough to look at the
tests and at the turns of the actions that the list consists of.
-/

namespace WindowActions

variable {S H : Type} [Seat S]

/-- The desktop after an abort of the session, if there is one. -/
def Desktop.abort (d : Desktop) : Option Session → Desktop
  | none => d
  | some session => session.action.behavior.post (session.action.behavior.cancel d)

/-- What running an action does to the session and the desktop. The arguments behind those of the
action are the session and the desktop before, whether a session has begun, and the session and the
desktop after. The cases are those of `Turn`. -/
inductive Deed (action : Action) (set : Option ClientSet) (data : ActionData) :
    Option Session → Desktop → Bool → Option Session → Desktop → Prop
  | aside {session : Option Session} {d : Desktop} (plain : action.info.interactive = false) :
      Deed action set data session d false session (action.behavior.run set data d).2
  | continued {session : Session} {d d' : Desktop} (interactive : action.info.interactive = true)
      (same : session.action.info.id = action.info.id)
      (run : action.behavior.run set data d = (true, d')) :
      Deed action set data (some session) d true (some { session with action }) d'
  | finished {session : Session} {d d' : Desktop} (interactive : action.info.interactive = true)
      (same : session.action.info.id = action.info.id)
      (run : action.behavior.run set data d = (false, d')) :
      Deed action set data (some session) d false none (action.behavior.post d')
  | declined {session : Option Session} {d d' : Desktop}
      (interactive : action.info.interactive = true)
      (other : ∀ s ∈ session, s.action.info.id ≠ action.info.id)
      (pre : action.behavior.pre data.state data (d.abort session) = (false, d')) :
      Deed action set data session d false none d'
  | refused {session : Option Session} {d d' : Desktop}
      (interactive : action.info.interactive = true)
      (other : ∀ s ∈ session, s.action.info.id ≠ action.info.id)
      (pre : action.behavior.pre data.state data (d.abort session) = (true, d')) :
      Deed action set data session d false none (d'.warn (.grabRefused action.info.name))
  | opened {session : Option Session} {d d' d'' : Desktop}
      (interactive : action.info.interactive = true)
      (other : ∀ s ∈ session, s.action.info.id ≠ action.info.id)
      (pre : action.behavior.pre data.state data (d.abort session) = (true, d'))
      (run : action.behavior.run set data d' = (true, d'')) :
      Deed action set data session d true (some ⟨action, data.state⟩) d''
  | fruitless {session : Option Session} {d d' d'' : Desktop}
      (interactive : action.info.interactive = true)
      (other : ∀ s ∈ session, s.action.info.id ≠ action.info.id)
      (pre : action.behavior.pre data.state data (d.abort session) = (true, d'))
      (run : action.behavior.run set data d' = (false, d'')) :
      Deed action set data session d false none (action.behavior.post d'')

theorem replay?_cons_eq_some {signal : Signal} {signals : List Signal} {world world' : World S} :
    replay? (signal :: signals) world = some world' ↔
      signal.isGiven world = true ∧ replay? signals (signal.effect world) = some world' := by
  rw [replay?_cons]
  by_cases h : signal.isGiven world = true
  · rw [if_pos h]
    exact (and_iff_right h).symm
  · rw [if_neg h]
    simp [h]

theorem replay?_abortSignals (session : Option Session) (world : World S) :
    ∃ seat, replay? (abortSignals session) world = some (seat, world.2.abort session) := by
  cases session with
  | none => exact ⟨world.1, rfl⟩
  | some session => exact ⟨Seat.release world.1, rfl⟩

theorem eq_of_run {behavior : Behavior} {set : Option ClientSet} {data : ActionData} {d : Desktop}
    {started : Bool} (h : (behavior.run set data d).1 = started) :
    behavior.run set data d = (started, (behavior.run set data d).2) :=
  Prod.ext h rfl

theorem eq_of_pre {behavior : Behavior} {data : ActionData} {d : Desktop} {accepted : Bool}
    (h : (behavior.pre data.state data d).1 = accepted) :
    behavior.pre data.state data d = (accepted, (behavior.pre data.state data d).2) :=
  Prod.ext h rfl

/-- Replaying the signals of a turn is its deed. -/
theorem Turn.deed {action : Action} {set : Option ClientSet} {data : ActionData}
    {before after : Option Session} {started : Bool} {new : List Signal} {world world' : World S}
    (h : Turn action set data before started new after) (hw : replay? new world = some world') :
    Deed action set data before world.2 started after world'.2 := by
  obtain ⟨seat, habort⟩ := replay?_abortSignals before world
  cases h with
  | aside plain =>
      rw [replay?_cons_eq_some, replay?_nil, Option.some.injEq] at hw
      obtain ⟨-, rfl⟩ := hw
      exact .aside plain
  | continued interactive same =>
      rw [replay?_cons_eq_some, replay?_nil, Option.some.injEq] at hw
      obtain ⟨hrun, rfl⟩ := hw
      exact .continued interactive same (eq_of_run (beq_iff_eq.1 hrun))
  | finished interactive same =>
      simp only [replay?_cons_eq_some, replay?_nil, Option.some.injEq] at hw
      obtain ⟨hrun, -, -, rfl⟩ := hw
      exact .finished interactive same (eq_of_run (beq_iff_eq.1 hrun))
  | declined interactive other =>
      rw [replay?_append, habort, Option.bind_some, replay?_cons_eq_some, replay?_nil,
        Option.some.injEq] at hw
      obtain ⟨hpre, rfl⟩ := hw
      exact .declined interactive other (eq_of_pre (beq_iff_eq.1 hpre))
  | refused interactive other =>
      simp only [replay?_append, habort, Option.bind_some, replay?_cons_eq_some, replay?_nil,
        Option.some.injEq] at hw
      obtain ⟨hpre, -, rfl⟩ := hw
      exact .refused interactive other (eq_of_pre (beq_iff_eq.1 hpre))
  | opened interactive other =>
      simp only [replay?_append, habort, Option.bind_some, replay?_cons_eq_some, replay?_nil,
        Option.some.injEq] at hw
      obtain ⟨hpre, -, hrun, rfl⟩ := hw
      exact .opened interactive other (eq_of_pre (beq_iff_eq.1 hpre))
        (eq_of_run (beq_iff_eq.1 hrun))
  | fruitless interactive other =>
      simp only [replay?_append, habort, Option.bind_some, replay?_cons_eq_some, replay?_nil,
        Option.some.injEq] at hw
      obtain ⟨hpre, -, hrun, -, -, rfl⟩ := hw
      exact .fruitless interactive other (eq_of_pre (beq_iff_eq.1 hpre))
        (eq_of_run (beq_iff_eq.1 hrun))

namespace Stage

theorem runAction_deed (stage : Stage S) (action : Action) (incoming : Option ClientSet)
    (data : ActionData) :
    Deed action (action.targetSet incoming data) data stage.session stage.desktop
      (stage.runAction action incoming data).1 (stage.runAction action incoming data).2.session
      (stage.runAction action incoming data).2.desktop := by
  obtain ⟨new, hw, hturn⟩ := stage.runAction_turn action incoming data
  exact hturn.deed hw.world

theorem desktop_cancel (stage : Stage S) :
    stage.cancel.desktop = stage.desktop.abort stage.session := by
  cases h : stage.session with
  | none => rw [cancel, h]; rfl
  | some session => rw [cancel, h]; rfl

/-- Input goes to the action of the session, which goes on or is over. -/
theorem input_some {stage : Stage S} {session : Session} (h : stage.session = some session)
    (event : InputEvent) :
    let heard := session.action.behavior.input session.initialState event stage.desktop
    (heard.1.resume = true ∧ (stage.input event).2.session = some session ∧
        (stage.input event).2.desktop = heard.2) ∨
      (heard.1.resume = false ∧ (stage.input event).2.session = none ∧
        (stage.input event).2.desktop = session.action.behavior.post heard.2) := by
  intro heard
  have hkept : (stage.hear session event).2.session = some session := h
  simp only [input, h]
  cases hresume : (stage.hear session event).1.resume with
  | true =>
      rw [if_pos rfl]
      exact Or.inl ⟨hresume, hkept, rfl⟩
  | false =>
      rw [if_neg Bool.false_ne_true, endSession_some hkept]
      exact Or.inr ⟨hresume, rfl, rfl⟩

end Stage

mutual

/-- All actions that an entry runs, in whichever branch, have a property. -/
def Entry.Only (p : Action → Prop) : Entry → Prop
  | .action action => p action
  | .conditional _ accepted otherwise => entriesOnly p accepted ∧ entriesOnly p otherwise

/-- All actions that the entries of a list run, in whichever branch, have a property. -/
def entriesOnly (p : Action → Prop) : List Entry → Prop
  | [] => True
  | entry :: entries => entry.Only p ∧ entriesOnly p entries

end

mutual

theorem Entry.Only.mono {p q : Action → Prop} (h : ∀ action, p action → q action) :
    ∀ {entry : Entry}, entry.Only p → entry.Only q
  | .action action, hentry => h action hentry
  | .conditional _ _ _, hentry => by
      rw [Entry.Only] at hentry ⊢
      exact ⟨entriesOnly_mono h hentry.1, entriesOnly_mono h hentry.2⟩

theorem entriesOnly_mono {p q : Action → Prop} (h : ∀ action, p action → q action) :
    ∀ {entries : List Entry}, entriesOnly p entries → entriesOnly q entries
  | [], _ => trivial
  | _ :: _, hentries => by
      rw [entriesOnly] at hentries ⊢
      exact ⟨Entry.Only.mono h hentries.1, entriesOnly_mono h hentries.2⟩

end

/-- What holds of either branch for the set that a conditional selects holds of the conditional. -/
theorem runEntry_conditional {P : Bool × Stage S → Prop} (stage : Stage S)
    (incoming : Option ClientSet) (data : ActionData) (test : Option TestChain)
    (accepted otherwise : ActionList)
    (h : ∀ isMatch,
      P (runEntries (stage.signal (.tested isMatch))
        (some (conditionalSet test accepted stage.desktop.clients incoming data)) data
        (if isMatch then accepted else otherwise))) :
    P (runEntry stage incoming data (.conditional test accepted otherwise)) := by
  rw [runEntry]
  cases hmatch : (conditionalSet test accepted stage.desktop.clients incoming data).isTrue
      stage.desktop.clients with
  | true => exact h true
  | false => exact h false

/-- What has to be shown of a property of stages for runs of the actions with `p` to preserve it:
it survives tests and turns. The property may depend on whether a session has begun, and the turns
are only those for incoming sets that fit, as those of nested conditionals do again. -/
structure RunInvariant (p : Action → Prop) (fits : Option ClientSet → Prop) (data : ActionData)
    (Q : Bool → Stage S → Prop) : Prop where
  tested : ∀ stage matched, Q false stage → Q false (stage.signal (.tested matched))
  selected : ∀ stage incoming test accepted, Q false stage → fits incoming →
    fits (some (conditionalSet test accepted stage.desktop.clients incoming data))
  turned : ∀ stage incoming action, Q false stage → fits incoming → p action →
    Q (stage.runAction action incoming data).1 (stage.runAction action incoming data).2

namespace RunInvariant

variable {p : Action → Prop} {fits : Option ClientSet → Prop} {data : ActionData}
  {Q : Bool → Stage S → Prop}

mutual

theorem runEntry (h : RunInvariant p fits data Q) {stage : Stage S} {incoming : Option ClientSet}
    (hstage : Q false stage) (hfits : fits incoming) :
    ∀ entry : Entry, entry.Only p →
      Q (runEntry stage incoming data entry).1 (runEntry stage incoming data entry).2
  | .action action, honly => by
      rw [WindowActions.runEntry]
      exact h.turned stage incoming action hstage hfits honly
  | .conditional test accepted otherwise, honly => by
      rw [Entry.Only] at honly
      have hset := h.selected stage incoming test accepted hstage hfits
      refine runEntry_conditional (P := fun result => Q result.1 result.2) stage incoming data test
        accepted otherwise fun isMatch => ?_
      cases isMatch with
      | true => exact h.runEntries (h.tested stage true hstage) hset accepted honly.1
      | false => exact h.runEntries (h.tested stage false hstage) hset otherwise honly.2

theorem runEntries (h : RunInvariant p fits data Q) {stage : Stage S}
    {incoming : Option ClientSet} (hstage : Q false stage) (hfits : fits incoming) :
    ∀ entries : List Entry, entriesOnly p entries →
      Q (runEntries stage incoming data entries).1 (runEntries stage incoming data entries).2
  | [], _ => hstage
  | entry :: entries, honly => by
      rw [entriesOnly] at honly
      have hentry := h.runEntry hstage hfits entry honly.1
      rw [WindowActions.runEntries]
      rcases hrun : WindowActions.runEntry stage incoming data entry with ⟨started, middle⟩
      rw [hrun] at hentry
      cases started with
      | true => exact hentry
      | false => exact h.runEntries hentry hfits entries honly.2

end

theorem runList {stage : Stage S} {trigger : Trigger} {list : ActionList}
    (h : RunInvariant p fits (trigger.data stage) Q) (hstage : Q false stage) (hfits : fits none)
    (honly : entriesOnly p list) :
    Q (stage.runList list trigger).1 (stage.runList list trigger).2 :=
  h.runEntries hstage hfits list honly

end RunInvariant

namespace Engine

variable {change : H → World S → World S} {engine : Engine S} {happenings : List (Happening H)}

theorem after_take_succ {n : Nat} {happening : Happening H} (h : happenings[n]? = some happening) :
    engine.after change (happenings.take (n + 1)) =
      (engine.after change (happenings.take n)).happen change happening := by
  rw [List.take_add_one, h, after, List.foldl_append]
  rfl

/-- The induction over a history: each of its happenings meets the engine that the ones before it
have led to. -/
theorem after_induct_take {P : Engine S → Prop} (start : P engine)
    (step : ∀ n happening, happenings[n]? = some happening →
      P (engine.after change (happenings.take n)) →
        P ((engine.after change (happenings.take n)).happen change happening)) (n : Nat) :
    P (engine.after change (happenings.take n)) := by
  induction n with
  | zero => exact start
  | succ n ih =>
      cases h : happenings[n]? with
      | none =>
          have hlength := List.getElem?_eq_none_iff.1 h
          rw [List.take_of_length_le hlength] at ih
          rwa [List.take_of_length_le (Nat.le_succ_of_le hlength)]
      | some happening =>
          rw [after_take_succ h]
          exact step n happening h ih

/-- What is preserved by everything of a kind that happens holds in the end, if nothing else does
happen. -/
theorem after_induct_of {ok : Happening H → Prop} {P : Engine S → Prop}
    (step : ∀ engine happening, ok happening → P engine → P (engine.happen change happening))
    (engine : Engine S) (start : P engine) (happenings : List (Happening H))
    (hok : ∀ happening ∈ happenings, ok happening) : P (engine.after change happenings) := by
  have hafter := after_induct_take start
    (fun n happening hn h => step _ happening (hok happening (List.mem_of_getElem? hn)) h)
    happenings.length
  rwa [List.take_length] at hafter

end Engine

end WindowActions
