import WindowActions.Pattern.Engine
import WindowActions.Proofs.Builtin.Cycles
import WindowActions.Proofs.Builtin.Reports

/-!
# What an engine remembers of its sessions

While a session goes on, its cycle has candidates and the cursor stands on one of them. When it is
over, nothing is left of it: every cycle is empty then. So an engine without a session knows no more
than its names and its host. Two of them that look the same give the same reports on everything that
is asked of them, whatever has happened to either before.
-/

namespace WindowActions

/-- The cycle of the session has candidates, and the cursor stands on one of them. -/
def Lively (session : Option Session) (d : Desktop) : Prop :=
  ∀ s ∈ session, ∃ n, (d.cycles s.action.info.id).cursor = some n ∧
    n < (d.cycles s.action.info.id).candidates.length

theorem Cycle.Ran.cursor {slot : Nat} {direction : Direction} {set : Option ClientSet}
    {data : ActionData} {d d' : Desktop} (h : Ran slot direction set data d true d') :
    ∃ n, (d'.cycles slot).cursor = some n ∧ n < (d'.cycles slot).candidates.length := by
  cases h with
  | previewed hready hsome held =>
      rw [cycles_move, Desktop.setCycle_same]
      exact ⟨_, rfl, direction.next_lt (List.length_pos_iff.2 hsome) _⟩

namespace Lively

variable {session : Option Session} {d d' : Desktop}

theorem none (d : Desktop) : Lively none d := by
  rintro s ⟨⟩

theorem congr (h : Lively session d) (heq : d'.cycles = d.cycles) : Lively session d' := by
  intro s hs
  rw [heq]
  exact h s hs

theorem deed {action : Action} {set : Option ClientSet} {data : ActionData} {begun : Bool}
    {session' : Option Session} (h : Lively session d) (hbuiltin : action.IsBuiltin)
    (hdeed : Deed action set data session d begun session' d') : Lively session' d' := by
  cases hdeed.builtin hbuiltin with
  | plain isPlain => exact h.congr (isPlain.cycles_run set data d)
  | continued same run =>
      rintro s ⟨⟩
      exact (Cycle.ran run).cursor
  | opened run =>
      rintro s ⟨⟩
      exact (Cycle.ran run).cursor
  | finished | refused | fruitless => exact .none _

end Lively

theorem lively_run {S : Type} [Seat S] (data : ActionData) :
    RunInvariant Action.IsBuiltin (fun _ => True) data
      fun (_ : Bool) (stage : Stage S) => Lively stage.session stage.desktop where
  tested _ _ h := h
  selected _ _ _ _ _ _ := trivial
  turned stage incoming action h _ hbuiltin :=
    h.deed hbuiltin (stage.runAction_deed action incoming data)

/-- Every cycle is empty but that of the session, which is lively, and the keyboard is grabbed for
the session and for nothing else. -/
structure Engine.InOrder (engine : Engine HeadlessSeat) : Prop where
  tidy : Tidy (fun _ => True) engine.stage.session engine.stage.desktop
  lively : Lively engine.stage.session engine.stage.desktop
  grabbed : engine.stage.isRunning = engine.stage.seat.grabbed

/-- All cycles but that of the session are empty. -/
theorem Tidy.other {session : Option Session} {d : Desktop} (h : Tidy (fun _ => True) session d)
    {slot : Nat} (hslot : ∀ s ∈ session, s.action.info.id ≠ slot) : d.cycles slot = {} := by
  cases session with
  | none => exact h slot
  | some session => exact h.2.2 slot fun _ => (hslot session rfl).symm

theorem HeadlessSeat.eq_of_fields_eq {seat seat' : HeadlessSeat}
    (hposition : seat.position = seat'.position) (hdeny : seat.denyGrabs = seat'.denyGrabs)
    (hgrabbed : seat.grabbed = seat'.grabbed) : seat = seat' := by
  cases seat
  cases seat'
  cases hposition
  cases hdeny
  cases hgrabbed
  rfl

/-- Only builtin actions run, and the names are not forgotten. -/
def Happening.IsOrdinary {H : Type} (happening : Happening H) : Prop :=
  happening.Only Action.IsBuiltin ∧ happening ≠ .call .shutdown

/-- Of what a call runs, the changes that a host makes by itself are no part. -/
theorem Happening.Only.call {H H' : Type} {p : Action → Prop} {call : Call}
    (h : Happening.Only p (.call call : Happening H)) :
    Happening.Only p (.call call : Happening H') := by
  cases call <;> exact h

namespace Engine

theorem lively_happen {S : Type} [Seat S] (engine : Engine S) (happening : Happening (HostChange S))
    (htidy : Tidy (fun _ => True) engine.stage.session engine.stage.desktop)
    (h : Lively engine.stage.session engine.stage.desktop)
    (hbuiltin : happening.Only Action.IsBuiltin) :
    Lively (engine.happen HostChange.apply happening).stage.session
      (engine.happen HostChange.apply happening).stage.desktop := by
  have hcancel : Lively engine.stage.cancel.session engine.stage.cancel.desktop := by
    rw [Stage.session_cancel]
    exact .none _
  cases happening with
  | parse source => exact h.congr (engine.stage.desktop.foldl_warn _).1
  | host change => exact h.congr rfl
  | call call =>
      cases call with
      | run list trigger =>
          exact (lively_run (trigger.data engine.stage)).runList h trivial hbuiltin
      | cancel => exact hcancel
      | shutdown => exact hcancel
      | input event =>
          show Lively (engine.stage.input event).2.session (engine.stage.input event).2.desktop
          cases hsession : engine.stage.session with
          | none =>
              rw [Stage.input_none hsession, hsession]
              exact .none _
          | some session =>
              rw [hsession] at htidy h
              rcases input_cycle htidy hsession event with ⟨hs, hd⟩ | ⟨d, -, hs, -⟩
              · rw [hs, hd]
                exact h
              · rw [hs]
                exact .none _

variable {engine : Engine HeadlessSeat} {happening : Happening HeadlessChange}

theorem tidy_headless (h : Tidy (fun _ => True) engine.stage.session engine.stage.desktop)
    (hbuiltin : happening.Only Action.IsBuiltin) :
    Tidy (fun _ => True) (engine.happen HeadlessChange.apply happening).stage.session
      (engine.happen HeadlessChange.apply happening).stage.desktop := by
  have htame := hbuiltin.mono fun action => Action.IsBuiltin.isTame
  cases happening with
  | call call => exact tidy_happen engine (.call call) htame.call h
  | parse source => exact tidy_happen engine (.parse source) trivial h
  | host change => exact h.congr (by cases change <;> rfl)

theorem lively_headless (htidy : Tidy (fun _ => True) engine.stage.session engine.stage.desktop)
    (h : Lively engine.stage.session engine.stage.desktop)
    (hbuiltin : happening.Only Action.IsBuiltin) :
    Lively (engine.happen HeadlessChange.apply happening).stage.session
      (engine.happen HeadlessChange.apply happening).stage.desktop := by
  cases happening with
  | call call => exact lively_happen engine (.call call) htidy h hbuiltin.call
  | parse source => exact lively_happen engine (.parse source) htidy h trivial
  | host change => exact h.congr (by cases change <;> rfl)

theorem inOrder_happen (engine : Engine HeadlessSeat) (happening : Happening HeadlessChange)
    (hbuiltin : happening.Only Action.IsBuiltin) (h : engine.InOrder) :
    (engine.happen HeadlessChange.apply happening).InOrder :=
  ⟨tidy_headless h.tidy hbuiltin, lively_headless h.tidy h.lively hbuiltin,
    running_happen engine happening h.grabbed⟩

theorem vocabulary_happen (h : happening ≠ .call .shutdown) :
    (engine.happen HeadlessChange.apply happening).vocabulary = engine.vocabulary := by
  cases happening with
  | parse | host => rfl
  | call call =>
      cases call with
      | run | input | cancel => rfl
      | shutdown => exact absurd rfl h

/-- Engines without a session are twins if they look the same. -/
theorem idle_twins {engine engine' : Engine HeadlessSeat} (h : engine.InOrder)
    (h' : engine'.InOrder) (hvocabulary : engine.vocabulary = engine'.vocabulary)
    (hidle : engine.stage.isRunning = false) (hidle' : engine'.stage.isRunning = false)
    (hspecs : engine.stage.desktop.clients.specs = engine'.stage.desktop.clients.specs)
    (hseat : engine.stage.seat = engine'.stage.seat) :
    Engine.Twins (ClientStore.counterparts hspecs) engine.stage.desktop engine'.stage.desktop
      engine engine' := by
  have hnone : engine.stage.session = none := by simpa [Stage.isRunning] using hidle
  have hnone' : engine'.stage.session = none := by simpa [Stage.isRunning] using hidle'
  have hempty : ∀ slot, engine.stage.desktop.cycles slot = {} := fun slot =>
    h.tidy.other (by simp [hnone])
  have hempty' : ∀ slot, engine'.stage.desktop.cycles slot = {} := fun slot =>
    h'.tidy.other (by simp [hnone'])
  refine ⟨hvocabulary, hseat, hnone.trans hnone'.symm, by simp [hnone],
    ClientStore.twins_counterparts hspecs, fun slot => ?_, .refl _ _, .refl _ _⟩
  rw [hempty, hempty']
  exact .empty _

section History

variable (vocabulary : Vocabulary) (position position' : Int × Int) (denyGrabs denyGrabs' : Bool)
  (clients clients' : ClientStore) {happenings happenings' : List (Happening HeadlessChange)}

theorem inOrder_after (hordinary : ∀ happening ∈ happenings, happening.IsOrdinary) :
    (Engine.after HeadlessChange.apply
      ⟨vocabulary, { seat := { position, denyGrabs }, desktop := { clients } }⟩
      happenings).InOrder ∧
    (Engine.after HeadlessChange.apply
      ⟨vocabulary, { seat := { position, denyGrabs }, desktop := { clients } }⟩
      happenings).vocabulary = vocabulary := by
  have hstep : ∀ (engine : Engine HeadlessSeat) (happening : Happening HeadlessChange),
      happening.IsOrdinary → engine.InOrder ∧ engine.vocabulary = vocabulary →
      (engine.happen HeadlessChange.apply happening).InOrder ∧
        (engine.happen HeadlessChange.apply happening).vocabulary = vocabulary :=
    fun engine happening hordinary h => ⟨inOrder_happen engine happening hordinary.1 h.1,
      (vocabulary_happen hordinary.2).trans h.2⟩
  refine after_induct_of hstep _ ?_ happenings hordinary
  exact ⟨⟨fun _ => rfl, .none _, rfl⟩, rfl⟩

/-- Without a session every cycle is empty. With one all others are, and the cycle of the session
has candidates and its cursor stands on one of them. So nothing is left of earlier sessions when
there is none: engines of the same names that look the same give the same reports from then on,
whatever has happened before. -/
theorem sessions_forgotten (hordinary : ∀ happening ∈ happenings, happening.IsOrdinary)
    (hordinary' : ∀ happening ∈ happenings', happening.IsOrdinary) :
    let engine := Engine.after HeadlessChange.apply
      ⟨vocabulary, { seat := { position, denyGrabs }, desktop := { clients } }⟩ happenings
    let engine' := Engine.after HeadlessChange.apply
      ⟨vocabulary,
        { seat := { position := position', denyGrabs := denyGrabs' }
          desktop := { clients := clients' } }⟩ happenings'
    ((∀ slot, (∀ s ∈ engine.stage.session, s.action.info.id ≠ slot) →
        engine.stage.desktop.cycles slot = {}) ∧
      ∀ s ∈ engine.stage.session,
        let state := engine.stage.desktop.cycles s.action.info.id
        state.candidates ≠ [] ∧ ∃ n, state.cursor = some n ∧ n < state.candidates.length) ∧
    (engine.stage.isRunning = false → engine'.stage.isRunning = false →
      engine.stage.desktop.clients.specs = engine'.stage.desktop.clients.specs →
      engine.stage.seat.position = engine'.stage.seat.position →
      engine.stage.seat.denyGrabs = engine'.stage.seat.denyGrabs →
      ∀ requests : List Request, (∀ request ∈ requests, request.IsOrdinary) →
        engine.reports requests = engine'.reports requests) := by
  intro engine engine'
  obtain ⟨horder, hvocabulary⟩ := inOrder_after vocabulary position denyGrabs clients hordinary
  obtain ⟨horder', hvocabulary'⟩ :=
    inOrder_after vocabulary position' denyGrabs' clients' hordinary'
  refine ⟨⟨fun slot hslot => ?_, fun s hs => ?_⟩, ?_⟩
  · exact horder.tidy.other hslot
  · obtain ⟨n, hcursor, hlt⟩ := horder.lively s hs
    exact ⟨List.ne_nil_of_length_pos (Nat.zero_lt_of_lt hlt), n, hcursor, hlt⟩
  · intro hidle hidle' hspecs hposition hdeny requests hrequests
    have hgrabbed := horder.grabbed.symm.trans (hidle.trans (hidle'.symm.trans horder'.grabbed))
    have hseat := HeadlessSeat.eq_of_fields_eq hposition hdeny hgrabbed
    exact (idle_twins horder horder' (hvocabulary.trans hvocabulary'.symm) hidle hidle' hspecs
      hseat).reports requests hrequests

end History

/-- After these two histories window 3 belongs to clients with different serial numbers. It is
previewed then, and turned into an icon before `NextWindow` takes over. -/
theorem sessions_forgotten_renumbered :
    let clients : ClientStore := .ofSpecs [⟨1, { focused := true }⟩, ⟨2, {}⟩]
    let happenings : List (Happening HeadlessChange) :=
      [.call (.run [.action (.nextWindow 4)] { state := 8 }), .call .cancel, .host (.manage 3 {})]
    let happenings' : List (Happening HeadlessChange) :=
      [.host (.manage 7 {}), .call (.run [.action (.nextWindow 4)] { state := 8 }),
        .host (.unmanage 7), .host (.manage 3 {}), .call (.input ⟨.keyPress, 9, 8⟩)]
    let engine := Engine.after HeadlessChange.apply
      ⟨.builtin, { seat := {}, desktop := { clients } }⟩ happenings
    let engine' := Engine.after HeadlessChange.apply
      ⟨.builtin, { seat := {}, desktop := { clients } }⟩ happenings'
    let requests : List Request :=
      [.run [.action (.previousWindow 5)] { state := 8 } none,
        .run [.conditional none [.action (.iconify 2)] [], .action (.nextWindow 4)] { state := 8 }
          (some 3)]
    (engine.reports requests).map (·.clients.map (·.state.focused)) =
        [[false, false, true], [false, true, false]] ∧
      engine.reports requests = engine'.reports requests := by
  intro clients happenings happenings' engine engine' requests
  have hordinary : ∀ happening ∈ happenings, happening.IsOrdinary := by
    simp [happenings, Happening.IsOrdinary, Happening.Only, entriesOnly, Entry.Only,
      Action.isBuiltin_nextWindow]
  have hordinary' : ∀ happening ∈ happenings', happening.IsOrdinary := by
    simp [happenings', Happening.IsOrdinary, Happening.Only, entriesOnly, Entry.Only,
      Action.isBuiltin_nextWindow]
  have hrequests : ∀ request ∈ requests, request.IsOrdinary := by
    simp [requests, Request.IsOrdinary, entriesOnly, Entry.Only, entriesTest, Entry.Tests,
      Action.isBuiltin_nextWindow, Action.isBuiltin_previousWindow, Action.isBuiltin_iconify]
  have hforgotten := sessions_forgotten .builtin (0, 0) (0, 0) false false clients clients
    hordinary hordinary'
  have hreports := hforgotten.2 (by decide) (by decide) (by decide) rfl rfl requests hrequests
  exact ⟨by decide +kernel, hreports⟩

end Engine

end WindowActions
