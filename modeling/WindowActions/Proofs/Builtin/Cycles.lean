import WindowActions.Proofs.Builtin.Actions
import WindowActions.Proofs.Session.Deed

/-!
# Cycles and sessions

A cycle lives as long as its session. Whoever has no session has the empty cycle, so a session
always begins with candidates of its own, and what an earlier one has left behind is seen by nobody.
The reason is that every way out of a session goes through `post`.

`Tidy` says this of a session and a desktop, and `Engine.tidy_after` of every engine, whatever has
happened to it. Besides the builtin actions others may have run; all that is asked of them is to
leave the cycles alone. Which registrations are those of cycles is told by `cyclic`.
-/

namespace WindowActions

variable {S H : Type} [Seat S]

/-- The functions of a behavior do not touch the cycles. -/
structure Behavior.LeavesCycles (behavior : Behavior) : Prop where
  run : ∀ set data d, (behavior.run set data d).2.cycles = d.cycles
  pre : ∀ modifiers data d, (behavior.pre modifiers data d).2.cycles = d.cycles
  input : ∀ initial event d, (behavior.input initial event d).2.cycles = d.cycles
  cancel : ∀ d, (behavior.cancel d).cycles = d.cycles
  post : ∀ d, (behavior.post d).cycles = d.cycles

theorem Behavior.IsPlain.leavesCycles {behavior : Behavior} (h : behavior.IsPlain) :
    behavior.LeavesCycles := by
  refine ⟨h.cycles_run, ?_, ?_, ?_, ?_⟩ <;> cases h <;> intros <;> rfl

/-- An interactive action is the cycle of its registration if the number of that is cyclic. Every
other action leaves the cycles alone. -/
structure Action.IsTame (cyclic : Nat → Prop) (action : Action) : Prop where
  cycle : action.info.interactive = true → cyclic action.info.id →
    ∃ direction, action.behavior = Cycle.behavior action.info.id direction
  leaves : (action.info.interactive = true → ¬ cyclic action.info.id) →
    action.behavior.LeavesCycles

theorem Action.IsBuiltin.isTame {action : Action} (h : action.IsBuiltin) :
    action.IsTame fun _ => True := by
  rcases h.cases with ⟨hplain, hbehavior⟩ | ⟨hinteractive, hbehavior⟩
  · exact ⟨by simp [hplain], fun _ => hbehavior.leavesCycles⟩
  · exact ⟨fun _ _ => hbehavior, fun hnot => absurd trivial (hnot hinteractive)⟩

/-- Every cycle is empty, but for that of a number if it is cyclic. -/
def Desktop.OnlyCycle (cyclic : Nat → Prop) (id : Nat) (d : Desktop) : Prop :=
  ∀ slot, (cyclic id → slot ≠ id) → d.cycles slot = {}

theorem Desktop.OnlyCycle.congr {cyclic : Nat → Prop} {id : Nat} {d d' : Desktop}
    (h : d.OnlyCycle cyclic id) (heq : d'.cycles = d.cycles) : d'.OnlyCycle cyclic id :=
  fun slot hslot => heq ▸ h slot hslot

namespace Cycle

/-- Input either leaves the desktop as it is and goes on, or ends the session by a revert or a
commit. -/
theorem input_cases (slot : Nat) (initial : Modifiers) (event : InputEvent) (d : Desktop) :
    ((input slot initial event d).1.resume = true ∧ (input slot initial event d).2 = d) ∨
      ((input slot initial event d).1.resume = false ∧
        ((input slot initial event d).2 = revert slot d ∨
          (input slot initial event d).2 = commit slot d)) := by
  rw [input]
  cases event.kind with
  | keyPress =>
      by_cases hdetail : event.detail = escapeKey <;> simp [hdetail]
  | keyRelease =>
      by_cases hstate : event.state &&& initial = 0 <;> simp [hstate]
  | buttonPress | buttonRelease | motion => simp

theorem cycles_input (slot : Nat) (initial : Modifiers) (event : InputEvent) (d : Desktop) :
    (input slot initial event d).2.cycles = d.cycles := by
  rcases input_cases slot initial event d with ⟨-, heq⟩ | ⟨-, heq | heq⟩
  · rw [heq]
  · rw [heq, cycles_revert]
  · rw [heq, cycles_commit]

end Cycle

namespace Action.IsTame

variable {cyclic : Nat → Prop} {action : Action} {d : Desktop}

theorem cases (h : action.IsTame cyclic) (hinteractive : action.info.interactive = true) :
    (cyclic action.info.id ∧
        ∃ direction, action.behavior = Cycle.behavior action.info.id direction) ∨
      (¬ cyclic action.info.id ∧ action.behavior.LeavesCycles) := by
  by_cases hcyclic : cyclic action.info.id
  · exact Or.inl ⟨hcyclic, h.cycle hinteractive hcyclic⟩
  · exact Or.inr ⟨hcyclic, h.leaves fun _ => hcyclic⟩

theorem run (h : action.IsTame cyclic) (hinteractive : action.info.interactive = true)
    (set : Option ClientSet) (data : ActionData) (hd : d.OnlyCycle cyclic action.info.id) :
    (action.behavior.run set data d).2.OnlyCycle cyclic action.info.id := by
  rcases h.cases hinteractive with ⟨hcyclic, direction, hbehavior⟩ | ⟨-, hleaves⟩
  · intro slot hslot
    rw [hbehavior]
    exact ((Cycle.ran rfl).cycles_other (hslot hcyclic)).trans (hd slot hslot)
  · exact hd.congr (hleaves.run set data d)

theorem pre (h : action.IsTame cyclic) (hinteractive : action.info.interactive = true)
    (modifiers : Modifiers) (data : ActionData) :
    (action.behavior.pre modifiers data d).2.cycles = d.cycles := by
  rcases h.cases hinteractive with ⟨-, direction, hbehavior⟩ | ⟨-, hleaves⟩
  · rw [hbehavior]
    rfl
  · exact hleaves.pre modifiers data d

theorem input (h : action.IsTame cyclic) (hinteractive : action.info.interactive = true)
    (initial : Modifiers) (event : InputEvent) :
    (action.behavior.input initial event d).2.cycles = d.cycles := by
  rcases h.cases hinteractive with ⟨-, direction, hbehavior⟩ | ⟨-, hleaves⟩
  · rw [hbehavior]
    exact Cycle.cycles_input action.info.id initial event d
  · exact hleaves.input initial event d

theorem cancel (h : action.IsTame cyclic) (hinteractive : action.info.interactive = true) :
    (action.behavior.cancel d).cycles = d.cycles := by
  rcases h.cases hinteractive with ⟨-, direction, hbehavior⟩ | ⟨-, hleaves⟩
  · rw [hbehavior]
    exact Cycle.cycles_revert action.info.id d
  · exact hleaves.cancel d

/-- The end of a session leaves no cycle behind. -/
theorem post (h : action.IsTame cyclic) (hinteractive : action.info.interactive = true)
    (hd : d.OnlyCycle cyclic action.info.id) (slot : Nat) :
    (action.behavior.post d).cycles slot = {} := by
  rcases h.cases hinteractive with ⟨hcyclic, direction, hbehavior⟩ | ⟨hcyclic, hleaves⟩
  · rw [hbehavior]
    show (d.setCycle action.info.id {}).cycles slot = {}
    by_cases hslot : slot = action.info.id
    · rw [hslot, Desktop.setCycle_same]
    · rw [d.setCycle_other hslot]
      exact hd slot fun _ => hslot
  · rw [hleaves.post d]
    exact hd slot fun h => absurd h hcyclic

end Action.IsTame

/-- Without a session every cycle is empty, and otherwise every one but that of the session. -/
def Tidy (cyclic : Nat → Prop) : Option Session → Desktop → Prop
  | none, d => ∀ slot, d.cycles slot = {}
  | some session, d => session.action.IsTame cyclic ∧ session.action.info.interactive = true ∧
      d.OnlyCycle cyclic session.action.info.id

namespace Tidy

variable {cyclic : Nat → Prop} {session : Option Session} {d d' : Desktop}

theorem congr (h : Tidy cyclic session d) (heq : d'.cycles = d.cycles) :
    Tidy cyclic session d' := by
  cases session with
  | none => exact fun slot => heq ▸ h slot
  | some session => exact ⟨h.1, h.2.1, h.2.2.congr heq⟩

theorem abort (h : Tidy cyclic session d) (slot : Nat) : (d.abort session).cycles slot = {} := by
  cases session with
  | none => exact h slot
  | some session =>
      obtain ⟨htame, hinteractive, honly⟩ := h
      exact htame.post hinteractive (honly.congr (htame.cancel hinteractive)) slot

/-- What a tame action does keeps the cycles tidy. -/
theorem deed {action : Action} {set : Option ClientSet} {data : ActionData} {begun : Bool}
    {session' : Option Session} (h : Tidy cyclic session d) (htame : action.IsTame cyclic)
    (hdeed : Deed action set data session d begun session' d') : Tidy cyclic session' d' := by
  have hrun : ∀ {d d' : Desktop} {started : Bool}, d.OnlyCycle cyclic action.info.id →
      action.behavior.run set data d = (started, d') →
      action.info.interactive = true → d'.OnlyCycle cyclic action.info.id := by
    intro d d' started hd heq hinteractive
    have honly := htame.run hinteractive set data hd
    rwa [heq] at honly
  have hpre : ∀ {d' : Desktop} {accepted : Bool},
      action.behavior.pre data.state data (d.abort session) = (accepted, d') →
      action.info.interactive = true → ∀ slot, d'.cycles slot = {} := by
    intro d' accepted heq hinteractive slot
    have hcycles := htame.pre (d := d.abort session) hinteractive data.state data
    rw [heq] at hcycles
    exact hcycles ▸ h.abort slot
  cases hdeed with
  | aside plain =>
      have hleaves := htame.leaves (by simp [plain])
      exact h.congr (hleaves.run set data d)
  | continued interactive same run =>
      obtain ⟨-, -, honly⟩ := h
      rw [same] at honly
      exact ⟨htame, interactive, hrun honly run interactive⟩
  | finished interactive same run =>
      obtain ⟨-, -, honly⟩ := h
      rw [same] at honly
      exact htame.post interactive (hrun honly run interactive)
  | declined interactive other pre => exact hpre pre interactive
  | refused interactive other pre =>
      have hempty := hpre pre interactive
      exact hempty
  | opened interactive other pre run =>
      exact ⟨htame, interactive,
        hrun (fun slot _ => hpre pre interactive slot) run interactive⟩
  | fruitless interactive other pre run =>
      exact htame.post interactive
        (hrun (fun slot _ => hpre pre interactive slot) run interactive)

end Tidy

/-- What running a builtin action does. A plain one runs; a cycle has no objection to a session. -/
inductive BuiltinDeed (action : Action) (set : Option ClientSet) (data : ActionData) :
    Option Session → Desktop → Bool → Option Session → Desktop → Prop
  | plain {session : Option Session} {d : Desktop} (isPlain : action.behavior.IsPlain) :
      BuiltinDeed action set data session d false session (action.behavior.run set data d).2
  | continued {session : Session} {d d' : Desktop} {direction : Direction}
      (same : session.action.info.id = action.info.id)
      (run : Cycle.run action.info.id direction set data d = (true, d')) :
      BuiltinDeed action set data (some session) d true (some { session with action }) d'
  | finished {session : Session} {d d' : Desktop} {direction : Direction}
      (same : session.action.info.id = action.info.id)
      (run : Cycle.run action.info.id direction set data d = (false, d')) :
      BuiltinDeed action set data (some session) d false none (d'.setCycle action.info.id {})
  | refused {session : Option Session} {d : Desktop} :
      BuiltinDeed action set data session d false none
        ((d.abort session).warn (.grabRefused action.info.name))
  | opened {session : Option Session} {d d' : Desktop} {direction : Direction}
      (run : Cycle.run action.info.id direction set data (d.abort session) = (true, d')) :
      BuiltinDeed action set data session d true (some ⟨action, data.state⟩) d'
  | fruitless {session : Option Session} {d d' : Desktop} {direction : Direction}
      (run : Cycle.run action.info.id direction set data (d.abort session) = (false, d')) :
      BuiltinDeed action set data session d false none (d'.setCycle action.info.id {})

theorem Deed.builtin {action : Action} {set : Option ClientSet} {data : ActionData}
    {session session' : Option Session} {d d' : Desktop} {begun : Bool}
    (h : Deed action set data session d begun session' d') (hbuiltin : action.IsBuiltin) :
    BuiltinDeed action set data session d begun session' d' := by
  rcases hbuiltin.cases with ⟨hplain, hbehavior⟩ | ⟨hinteractive, direction, hbehavior⟩
  · cases h with
    | aside => exact .plain hbehavior
    | continued interactive | finished interactive | declined interactive
    | refused interactive | opened interactive | fruitless interactive =>
        simp [hplain] at interactive
  · have hpre : ∀ d, action.behavior.pre data.state data d = (true, d) := by
      rw [hbehavior]
      exact fun _ => rfl
    have hrun : action.behavior.run = Cycle.run action.info.id direction := by rw [hbehavior]; rfl
    have hpost : ∀ d, action.behavior.post d = d.setCycle action.info.id {} := by
      rw [hbehavior]
      exact fun _ => rfl
    cases h with
    | aside plain => simp [hinteractive] at plain
    | continued interactive same run => exact .continued same (hrun ▸ run)
    | finished interactive same run =>
        rw [hpost]
        exact .finished same (hrun ▸ run)
    | declined interactive other pre =>
        rw [hpre] at pre
        cases pre
    | refused interactive other pre =>
        rw [hpre] at pre
        cases pre
        exact .refused
    | opened interactive other pre run =>
        rw [hpre] at pre
        cases pre
        exact .opened (hrun ▸ run)
    | fruitless interactive other pre run =>
        rw [hpre] at pre
        cases pre
        rw [hpost]
        exact .fruitless (hrun ▸ run)

/-- What the surroundings of an engine do by themselves: windows come and go, clients change, some
are held beyond the end of their management, and the seat changes. -/
inductive HostChange (S : Type) where
  | manage (window : UInt32) (state : ClientState)
  | unmanage (window : UInt32)
  | retire (window : UInt32)
  | release (r : ClientRef)
  | restate (f : Client → ClientState)
  | seat (f : S → S)

namespace HostChange

def onClients : HostChange S → ClientStore → ClientStore
  | manage window state, store => (store.manage window state).2
  | unmanage window, store => store.unmanage window
  | retire window, store => store.retire window
  | release r, store => store.release r
  | restate f, store => store.mapLive f
  | seat _, store => store

def onSeat : HostChange S → S → S
  | seat f, s => f s
  | _, s => s

def apply (change : HostChange S) (world : World S) : World S :=
  (change.onSeat world.1, world.2.withClients change.onClients)

end HostChange

/-- All lists that run are of actions with a property. Everything else may happen. -/
def Happening.Only (p : Action → Prop) : Happening H → Prop
  | .call (.run list _) => entriesOnly p list
  | _ => True

theorem Happening.Only.mono {p q : Action → Prop} (h : ∀ action, p action → q action)
    {happening : Happening H} (honly : happening.Only p) : happening.Only q := by
  cases happening with
  | call call => cases call with
    | run list trigger => exact entriesOnly_mono h honly
    | input | cancel | shutdown => trivial
  | parse | host => trivial

theorem Desktop.foldl_warn (d : Desktop) (warnings : List Warning) :
    (warnings.foldl Desktop.warn d).cycles = d.cycles ∧
      (warnings.foldl Desktop.warn d).clients = d.clients := by
  induction warnings generalizing d with
  | nil => exact ⟨rfl, rfl⟩
  | cons warning warnings ih => exact ih (d.warn warning)

namespace Engine

variable {cyclic : Nat → Prop}

theorem tidy_run (cyclic : Nat → Prop) (data : ActionData) :
    RunInvariant (Action.IsTame cyclic) (fun _ => True) data
      fun (_ : Bool) (stage : Stage S) => Tidy cyclic stage.session stage.desktop where
  tested _ _ h := h
  selected _ _ _ _ _ _ := trivial
  turned stage incoming action h _ htame :=
    h.deed htame (stage.runAction_deed action incoming data)

theorem tidy_input (stage : Stage S) (event : InputEvent)
    (h : Tidy cyclic stage.session stage.desktop) :
    Tidy cyclic (stage.input event).2.session (stage.input event).2.desktop := by
  cases hsession : stage.session with
  | none => rwa [Stage.input_none hsession]
  | some session =>
      rw [hsession] at h
      obtain ⟨htame, hinteractive, honly⟩ := h
      have hinput := htame.input (d := stage.desktop) hinteractive session.initialState event
      rcases Stage.input_some hsession event with ⟨-, hs, hd⟩ | ⟨-, hs, hd⟩
      · rw [hs, hd]
        exact ⟨htame, hinteractive, honly.congr hinput⟩
      · rw [hs, hd]
        exact htame.post hinteractive (honly.congr hinput)

/-- Input to a session of a cycle: it goes on as it is, or it is over and its cycle is emptied. -/
theorem input_cycle {stage : Stage S} {session : Session}
    (h : Tidy (fun _ => True) (some session) stage.desktop)
    (hsession : stage.session = some session)
    (event : InputEvent) :
    ((stage.input event).2.session = some session ∧
        (stage.input event).2.desktop = stage.desktop) ∨
      ∃ d, (d = Cycle.revert session.action.info.id stage.desktop ∨
          d = Cycle.commit session.action.info.id stage.desktop) ∧
        (stage.input event).2.session = none ∧
        (stage.input event).2.desktop = d.setCycle session.action.info.id {} := by
  obtain ⟨direction, hbehavior⟩ := h.1.cycle h.2.1 trivial
  have hheard := Cycle.input_cases session.action.info.id session.initialState event stage.desktop
  have hinput := Stage.input_some hsession event
  rw [hbehavior] at hinput
  rcases hinput with ⟨hresume, hs, hd⟩ | ⟨hstop, hs, hd⟩
  · rcases hheard with ⟨-, hsame⟩ | ⟨hends, -⟩
    · exact Or.inl ⟨hs, hd.trans hsame⟩
    · exact absurd (hresume.symm.trans hends) (by simp)
  · rcases hheard with ⟨hgoes, -⟩ | ⟨-, hends⟩
    · exact absurd (hgoes.symm.trans hstop) (by simp)
    · exact Or.inr ⟨_, hends, hs, hd⟩

theorem tidy_happen (engine : Engine S) (happening : Happening (HostChange S))
    (htame : happening.Only (Action.IsTame cyclic))
    (h : Tidy cyclic engine.stage.session engine.stage.desktop) :
    Tidy cyclic (engine.happen HostChange.apply happening).stage.session
      (engine.happen HostChange.apply happening).stage.desktop := by
  have hcancel : Tidy cyclic engine.stage.cancel.session engine.stage.cancel.desktop := by
    rw [Stage.session_cancel, Stage.desktop_cancel]
    exact h.abort
  cases happening with
  | parse source => exact h.congr (engine.stage.desktop.foldl_warn _).1
  | host change => exact h.congr rfl
  | call call =>
      cases call with
      | run list trigger =>
          exact (tidy_run cyclic (trigger.data engine.stage)).runList h trivial htame
      | input event => exact tidy_input engine.stage event h
      | cancel => exact hcancel
      | shutdown => exact hcancel

/-- The cycles of an engine that has run tame actions only are tidy. -/
theorem tidy_after (engine : Engine S)
    (start : Tidy cyclic engine.stage.session engine.stage.desktop)
    (happenings : List (Happening (HostChange S)))
    (htame : ∀ happening ∈ happenings, happening.Only (Action.IsTame cyclic)) :
    Tidy cyclic (engine.after HostChange.apply happenings).stage.session
      (engine.after HostChange.apply happenings).stage.desktop :=
  after_induct_of tidy_happen engine start happenings htame

end Engine

end WindowActions
