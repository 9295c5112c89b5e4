import WindowActions.Pattern.Engine
import WindowActions.Proofs.Builtin.Cycles
import WindowActions.Proofs.Builtin.Focus

/-!
# How many clients have the focus

`Engine.focus_exclusive_iff` says when the focus stays with one client at most, through all that can
happen to an engine that runs builtin actions. A preview that divides the focus is the only way to
lose this, and it takes a window whose management begins during a session.
`Engine.focus_not_exclusive` says that it can happen and that it can last: a commit repairs it only
if the previewed candidate is still there.

`Orderly` is what a history preserves until the focus is divided, and `AllKnown` what it preserves
as long as windows come between sessions only.
-/

namespace WindowActions

variable {S : Type} [Seat S]

/-- The focus is divided between the clients that the cycle of the session knows and others. -/
def FocusDivided (session : Option Session) (d : Desktop) : Prop :=
  ∃ s ∈ session, d.clients.FocusDivided (d.cycles s.action.info.id).known

/-- What a history preserves as long as it does not divide the focus, and what it leaves when it
does. -/
structure Orderly (begun : Bool) (session : Option Session) (d : Desktop) : Prop where
  tidy : Tidy (fun _ => True) session d
  before : ∀ slot, OneFocused (d.cycles slot).focusBefore
  focus : d.clients.FocusExclusive ∨ (begun = true ∧ FocusDivided session d)

namespace Orderly

variable {session session' : Option Session} {d d' : Desktop} {begun : Bool}

theorem exclusive (h : Orderly false session d) : d.clients.FocusExclusive :=
  h.focus.resolve_right fun hdivided => Bool.false_ne_true hdivided.1

theorem undivided (h : Orderly begun session d) (hnot : ¬ FocusDivided session d) :
    Orderly false session d :=
  ⟨h.tidy, h.before, Or.inl (h.focus.resolve_right fun hdivided => hnot hdivided.2)⟩

theorem idle (hempty : ∀ slot, d.cycles slot = {}) (hfocus : d.clients.FocusExclusive) :
    Orderly begun none d := by
  refine ⟨hempty, fun slot => ?_, Or.inl hfocus⟩
  rw [hempty slot]
  intro r s hr
  cases hr

theorem exclusive_abort (h : Orderly false session d) :
    (d.abort session).clients.FocusExclusive := by
  cases session with
  | none => exact h.exclusive
  | some s =>
      obtain ⟨htame, hinteractive, -⟩ := h.tidy
      obtain ⟨direction, hbehavior⟩ := htame.cycle hinteractive trivial
      rw [Desktop.abort, hbehavior]
      exact Cycle.exclusive_revert (h.before s.action.info.id)

theorem abort (h : Orderly false session d) : Orderly false none (d.abort session) :=
  idle h.tidy.abort h.exclusive_abort

theorem deed {action : Action} {set : Option ClientSet} {data : ActionData}
    (h : Orderly false session d) (hbuiltin : action.IsBuiltin)
    (hdeed : Deed action set data session d begun session' d') : Orderly begun session' d' := by
  have htidy := h.tidy.deed hbuiltin.isTame hdeed
  have habort := h.abort
  cases hdeed.builtin hbuiltin with
  | plain isPlain =>
      refine ⟨htidy, ?_, Or.inl (isPlain.exclusive_run set data h.exclusive)⟩
      rw [isPlain.cycles_run]
      exact h.before
  | continued same run =>
      have hran := Cycle.ran run
      exact ⟨htidy, hran.oneFocused h.exclusive h.before,
        (hran.exclusive_or_divided h.exclusive).imp_right fun hdivided => ⟨rfl, _, rfl, hdivided.2⟩⟩
  | finished same run =>
      have hran := Cycle.ran run
      exact idle htidy ((hran.exclusive_or_divided h.exclusive).resolve_right
        fun hdivided => Bool.false_ne_true hdivided.1)
  | refused => exact idle htidy habort.exclusive
  | opened run =>
      have hran := Cycle.ran run
      exact ⟨htidy, hran.oneFocused habort.exclusive habort.before,
        (hran.exclusive_or_divided habort.exclusive).imp_right
          fun hdivided => ⟨rfl, _, rfl, hdivided.2⟩⟩
  | fruitless run =>
      have hran := Cycle.ran run
      exact idle htidy ((hran.exclusive_or_divided habort.exclusive).resolve_right
        fun hdivided => Bool.false_ne_true hdivided.1)

theorem input {stage : Stage S} (h : Orderly false stage.session stage.desktop)
    (event : InputEvent) :
    Orderly false (stage.input event).2.session (stage.input event).2.desktop := by
  have htidy := Engine.tidy_input stage event h.tidy
  cases hsession : stage.session with
  | none => rwa [Stage.input_none hsession]
  | some session =>
      have hcycle := h.tidy
      rw [hsession] at hcycle
      rcases Engine.input_cycle hcycle hsession event with ⟨hs, hd⟩ | ⟨d, hends, hs, hd⟩
      · rw [hs, hd, ← hsession]
        exact h
      · have hfocus : (stage.input event).2.desktop.clients.FocusExclusive := by
          rw [hd]
          rcases hends with rfl | rfl
          · exact Cycle.exclusive_revert (h.before session.action.info.id)
          · exact Cycle.exclusive_commit session.action.info.id h.exclusive
        rw [hs] at htidy ⊢
        exact idle htidy hfocus

theorem congr (h : Orderly begun session d) (hcycles : d'.cycles = d.cycles)
    (hclients : d'.clients = d.clients) : Orderly begun session d' := by
  refine ⟨h.tidy.congr hcycles, fun slot => hcycles ▸ h.before slot, ?_⟩
  rw [FocusDivided, hcycles, hclients]
  exact h.focus

end Orderly

/-- The surroundings do not give the focus to a client, be it one that comes or one that is there.
-/
def HostChange.NeverFocuses : HostChange S → Prop
  | .manage _ state => state.focused = false
  | .restate f => ∀ c, (f c).focused = true → c.state.focused = true
  | _ => True

omit [Seat S] in
theorem HostChange.exclusive_onClients {change : HostChange S} (hquiet : change.NeverFocuses)
    {store : ClientStore} (h : store.FocusExclusive) :
    (change.onClients store).FocusExclusive := by
  cases change with
  | seat f => exact h
  | restate f => exact h.mapLive hquiet
  | unmanage window => exact h.of_subset fun c hc _ => ClientStore.mem_managed_keep hc
  | release r => exact h.of_subset fun c hc _ => ClientStore.mem_managed_keep hc
  | retire window => exact h.of_subset fun c hc _ => ClientStore.mem_managed_retire hc
  | manage window state =>
      refine h.of_subset fun c hc hfocus => ?_
      rcases ClientStore.mem_managed_manage hc with hc | hstate
      · exact hc
      · rw [hstate, show state.focused = false from hquiet] at hfocus
        cases hfocus

namespace Engine

theorem orderly_run (data : ActionData) :
    RunInvariant Action.IsBuiltin (fun _ => True) data
      fun begun (stage : Stage S) => Orderly begun stage.session stage.desktop where
  tested _ _ h := h
  selected _ _ _ _ _ _ := trivial
  turned stage incoming action h _ hbuiltin :=
    h.deed hbuiltin (stage.runAction_deed action incoming data)

theorem orderly_happen {engine : Engine S} {happening : Happening (HostChange S)}
    (hbuiltin : happening.Only Action.IsBuiltin)
    (hquiet : ∀ change, happening = .host change → change.NeverFocuses)
    (h : Orderly false engine.stage.session engine.stage.desktop) :
    ∃ begun, Orderly begun (engine.happen HostChange.apply happening).stage.session
      (engine.happen HostChange.apply happening).stage.desktop := by
  have hcancel : Orderly false engine.stage.cancel.session engine.stage.cancel.desktop := by
    rw [Stage.session_cancel, Stage.desktop_cancel]
    exact h.abort
  cases happening with
  | parse source =>
      obtain ⟨hcycles, hclients⟩ := engine.stage.desktop.foldl_warn
        (engine.vocabulary.parse source).warnings
      exact ⟨false, h.congr hcycles hclients⟩
  | host change =>
      exact ⟨false, h.tidy.congr rfl, h.before,
        Or.inl (change.exclusive_onClients (hquiet change rfl) h.exclusive)⟩
  | call call =>
      cases call with
      | run list trigger =>
          exact ⟨_, (orderly_run (trigger.data engine.stage)).runList h trivial hbuiltin⟩
      | input event => exact ⟨false, h.input event⟩
      | cancel => exact ⟨false, hcancel⟩
      | shutdown => exact ⟨false, hcancel⟩

end Engine

/-- The cycle of the session knows all managed clients. -/
def AllKnown (session : Option Session) (d : Desktop) : Prop :=
  ∀ s ∈ session, ∀ r ∈ d.clients.managed.map (·.ref), r ∈ (d.cycles s.action.info.id).known

namespace AllKnown

variable {session session' : Option Session} {d d' : Desktop} {begun : Bool}

theorem not_divided (h : AllKnown session d) : ¬ FocusDivided session d := by
  rintro ⟨s, hs, c, hc, e, he, -, -, -, hnot⟩
  exact hnot (h s hs e.ref (List.mem_map_of_mem he))

theorem none (d : Desktop) : AllKnown none d := by
  intro s hs
  cases hs

theorem deed {action : Action} {set : Option ClientSet} {data : ActionData}
    (h : AllKnown session d) (htidy : Tidy (fun _ => True) session d)
    (hbuiltin : action.IsBuiltin) (hdeed : Deed action set data session d begun session' d') :
    AllKnown session' d' := by
  cases hdeed.builtin hbuiltin with
  | plain isPlain =>
      rw [AllKnown, isPlain.cycles_run, isPlain.managed_refs_run]
      exact h
  | finished | refused | fruitless => exact none _
  | @continued s _ _ _ same run =>
      obtain ⟨hrefs, hknown⟩ := (Cycle.ran run).known
      intro s' hs' r hr
      obtain rfl := Option.some.inj hs'
      rw [hrefs] at hr
      rcases hknown with ⟨hknown, -⟩ | hknown
      · rw [hknown, ← same]
        exact h s rfl r hr
      · rwa [hknown]
  | opened run =>
      obtain ⟨hrefs, hknown⟩ := (Cycle.ran run).known
      intro s' hs' r hr
      obtain rfl := Option.some.inj hs'
      rw [hrefs] at hr
      rcases hknown with ⟨-, hcandidates⟩ | hknown
      · rw [htidy.abort] at hcandidates
        exact absurd rfl hcandidates
      · rwa [hknown]

theorem congr (h : AllKnown session d) (hcycles : d'.cycles = d.cycles)
    (hrefs : ∀ r ∈ d'.clients.managed.map (·.ref), r ∈ d.clients.managed.map (·.ref)) :
    AllKnown session d' :=
  fun s hs r hr => hcycles ▸ h s hs r (hrefs r hr)

theorem input {stage : Stage S} (h : AllKnown stage.session stage.desktop)
    (htidy : Tidy (fun _ => True) stage.session stage.desktop) (event : InputEvent) :
    AllKnown (stage.input event).2.session (stage.input event).2.desktop := by
  cases hsession : stage.session with
  | none => rwa [Stage.input_none hsession]
  | some session =>
      rw [hsession] at htidy
      rcases Engine.input_cycle htidy hsession event with ⟨hs, hd⟩ | ⟨d, -, hs, -⟩
      · rwa [hs, hd, ← hsession]
      · rw [hs]
        exact .none _

end AllKnown

omit [Seat S] in
/-- The clients that are managed after a change of the surroundings were so before, unless a client
has come. -/
theorem HostChange.managed_refs_onClients {change : HostChange S} {store : ClientStore}
    {r : ClientRef} (h : r ∈ (change.onClients store).managed.map (·.ref)) :
    r ∈ store.managed.map (·.ref) ∨ ∃ window state, change = .manage window state := by
  obtain ⟨c, hc, rfl⟩ := List.mem_map.1 h
  cases change with
  | manage window state => exact Or.inr ⟨window, state, rfl⟩
  | seat f => exact Or.inl h
  | unmanage window => exact Or.inl (List.mem_map_of_mem (ClientStore.mem_managed_keep hc))
  | release r => exact Or.inl (List.mem_map_of_mem (ClientStore.mem_managed_keep hc))
  | retire window => exact Or.inl (List.mem_map_of_mem (ClientStore.mem_managed_retire hc))
  | restate f =>
      rw [onClients, ClientStore.managed_refs_mapLive] at h
      exact Or.inl h

namespace Engine

theorem known_run (data : ActionData) :
    RunInvariant Action.IsBuiltin (fun _ => True) data fun (_ : Bool) (stage : Stage S) =>
      Tidy (fun _ => True) stage.session stage.desktop ∧ AllKnown stage.session stage.desktop where
  tested _ _ h := h
  selected _ _ _ _ _ _ := trivial
  turned stage incoming action h _ hbuiltin :=
    have hdeed := stage.runAction_deed action incoming data
    ⟨h.1.deed hbuiltin.isTame hdeed, h.2.deed h.1 hbuiltin hdeed⟩

theorem known_happen {engine : Engine S} {happening : Happening (HostChange S)}
    (hbuiltin : happening.Only Action.IsBuiltin)
    (hidle : ∀ window state, happening = .host (.manage window state) →
      engine.stage.session = none)
    (htidy : Tidy (fun _ => True) engine.stage.session engine.stage.desktop)
    (h : AllKnown engine.stage.session engine.stage.desktop) :
    AllKnown (engine.happen HostChange.apply happening).stage.session
      (engine.happen HostChange.apply happening).stage.desktop := by
  have hcancel : AllKnown engine.stage.cancel.session engine.stage.cancel.desktop := by
    rw [Stage.session_cancel]
    exact .none _
  cases happening with
  | parse source =>
      obtain ⟨hcycles, hclients⟩ := engine.stage.desktop.foldl_warn
        (engine.vocabulary.parse source).warnings
      exact h.congr hcycles fun r hr => hclients ▸ hr
  | host change =>
      cases hsession : engine.stage.session with
      | none =>
          show AllKnown engine.stage.session _
          rw [hsession]
          exact .none _
      | some session =>
          refine h.congr rfl fun r hr => ?_
          rcases change.managed_refs_onClients hr with hr | ⟨window, state, rfl⟩
          · exact hr
          · rw [hidle window state rfl] at hsession
            cases hsession
  | call call =>
      cases call with
      | run list trigger =>
          exact ((known_run (trigger.data engine.stage)).runList ⟨htidy, h⟩ trivial hbuiltin).2
      | input event => exact h.input htidy event
      | cancel => exact hcancel
      | shutdown => exact hcancel

section History

variable (engine : Engine S) {happenings : List (Happening (HostChange S))}
  (hbuiltin : ∀ happening ∈ happenings, happening.Only Action.IsBuiltin)

include hbuiltin

/-- As long as nothing has divided the focus, it is exclusive. -/
theorem exclusive_after (h : Orderly false engine.stage.session engine.stage.desktop)
    (hquiet : ∀ change, .host change ∈ happenings → change.NeverFocuses)
    (hnot : ∀ n, let stage := (engine.after HostChange.apply (happenings.take n)).stage
      ¬ FocusDivided stage.session stage.desktop) (n : Nat) :
    (engine.after HostChange.apply
      (happenings.take n)).stage.desktop.clients.FocusExclusive := by
  refine Orderly.exclusive (after_induct_take
    (P := fun engine : Engine S => Orderly false engine.stage.session engine.stage.desktop)
    h (fun n happening hn hbefore => ?_) n)
  have hmem : happening ∈ happenings := List.mem_of_getElem? hn
  obtain ⟨begun, hnext⟩ := orderly_happen (hbuiltin happening hmem)
    (fun change heq => hquiet change (heq ▸ hmem)) hbefore
  refine hnext.undivided ?_
  rw [← after_take_succ hn]
  exact hnot (n + 1)

/-- If windows come between sessions only, then the cycle of a session knows all of them. -/
theorem known_after (htidy : Tidy (fun _ => True) engine.stage.session engine.stage.desktop)
    (h : AllKnown engine.stage.session engine.stage.desktop)
    (hidle : ∀ n window state, happenings[n]? = some (.host (.manage window state)) →
      (engine.after HostChange.apply (happenings.take n)).stage.isRunning = false) (n : Nat) :
    let stage := (engine.after HostChange.apply (happenings.take n)).stage
    AllKnown stage.session stage.desktop := by
  refine (after_induct_take
    (P := fun engine : Engine S =>
      Tidy (fun _ => True) engine.stage.session engine.stage.desktop ∧
        AllKnown engine.stage.session engine.stage.desktop)
    ⟨htidy, h⟩ (fun n happening hn hbefore => ?_) n).2
  have honly := hbuiltin happening (List.mem_of_getElem? hn)
  have htame := honly.mono fun action => Action.IsBuiltin.isTame
  refine ⟨tidy_happen _ happening htame hbefore.1, known_happen honly ?_ hbefore.1 hbefore.2⟩
  rintro window state rfl
  simpa [Stage.isRunning] using hidle n window state hn

end History

/-- As long as the surroundings do not give the focus to a client, it stays exclusive unless a
preview divides it, and that takes a window whose management begins during a session. -/
theorem focus_exclusive_iff (vocabulary : Vocabulary) (seat : S) (clients : ClientStore)
    (hstart : clients.FocusExclusive) (happenings : List (Happening (HostChange S)))
    (hbuiltin : ∀ happening ∈ happenings, happening.Only Action.IsBuiltin)
    (hquiet : ∀ change, .host change ∈ happenings → change.NeverFocuses) :
    let stage n := (Engine.after HostChange.apply ⟨vocabulary, { seat, desktop := { clients } }⟩
      (happenings.take n)).stage
    ((∀ n, (stage n).desktop.clients.FocusExclusive) ↔
      ∀ n, ¬ FocusDivided (stage n).session (stage n).desktop) ∧
    ((∀ n window state, happenings[n]? = some (.host (.manage window state)) →
        (stage n).isRunning = false) →
      ∀ n, (stage n).desktop.clients.FocusExclusive) := by
  intro stage
  have hundivided : (∀ n, ¬ FocusDivided (stage n).session (stage n).desktop) →
      ∀ n, (stage n).desktop.clients.FocusExclusive :=
    exclusive_after ⟨vocabulary, { seat, desktop := { clients } }⟩ hbuiltin
      (.idle (fun _ => rfl) hstart) hquiet
  refine ⟨⟨fun hexclusive n => ?_, hundivided⟩, fun hidle => hundivided fun n => ?_⟩
  · rintro ⟨s, -, hdivided⟩
    exact hdivided.not_exclusive (hexclusive n)
  · have hknown : AllKnown (stage n).session (stage n).desktop :=
      known_after ⟨vocabulary, { seat, desktop := { clients } }⟩ hbuiltin
        (fun _ => rfl) (.none _) hidle n
    exact hknown.not_divided

/-- A window whose management begins between two sessions does no harm. -/
theorem focus_exclusive_between :
    let clients : ClientStore := .ofSpecs [⟨1, { focused := true }⟩, ⟨2, {}⟩]
    let happenings : List (Happening (HostChange HeadlessSeat)) :=
      [.call (.run [.action (.nextWindow 4)] { state := 8 }), .call .cancel, .host (.manage 4 {}),
        .call (.run [.action (.nextWindow 4)] { state := 8 })]
    clients.FocusExclusive ∧ (∀ happening ∈ happenings, happening.Only Action.IsBuiltin) ∧
    (∀ change, .host change ∈ happenings → change.NeverFocuses) ∧
    ∀ n, (Engine.after HostChange.apply ⟨.builtin, { seat := {}, desktop := { clients } }⟩
      (happenings.take n)).stage.desktop.clients.FocusExclusive := by
  intro clients happenings
  have hstart : clients.FocusExclusive := by decide
  have hbuiltin : ∀ happening ∈ happenings, happening.Only Action.IsBuiltin := by
    simp [happenings, Happening.Only, entriesOnly, Entry.Only, Action.isBuiltin_nextWindow]
  have hquiet : ∀ change, .host change ∈ happenings → change.NeverFocuses := by
    simp [happenings, HostChange.NeverFocuses]
  have hexclusive := focus_exclusive_iff .builtin {} clients hstart happenings hbuiltin hquiet
  refine ⟨hstart, hbuiltin, hquiet, hexclusive.2 ?_⟩
  intro n window state hn
  match n with
  | 2 => decide
  | 0 | 1 | 3 => simp [happenings] at hn
  | n + 4 => simp [happenings] at hn

/-- A client that has come and got the focus during a session shares it with the one that is
previewed next, and if another candidate goes and the preview comes to rest on it, then the two
still share the focus after the session. -/
theorem focus_not_exclusive :
    ¬ ∀ (clients : ClientStore) (happenings : List (Happening (HostChange HeadlessSeat))),
      clients.FocusExclusive → (∀ happening ∈ happenings, happening.Only Action.IsBuiltin) →
      (∀ change, .host change ∈ happenings → change.NeverFocuses) →
      let engine := Engine.after HostChange.apply
        ⟨.builtin, { seat := {}, desktop := { clients } }⟩ happenings
      engine.stage.isRunning = false → engine.stage.desktop.clients.FocusExclusive := by
  intro h
  have hexclusive := h (.ofSpecs [⟨1, { focused := true }⟩, ⟨2, {}⟩, ⟨3, {}⟩])
    [.call (.run [.action (.nextWindow 4)] { state := 8 }), .host (.manage 4 {}),
      .call (.run [.action (.activate 1)] { client := some ⟨3, 4⟩ }),
      .call (.run [.action (.nextWindow 4)] { state := 8 }), .host (.unmanage 1),
      .call (.run [.action (.nextWindow 4)] { state := 8 }), .call (.input ⟨.keyRelease, 64, 0⟩)]
    (by decide)
    (by simp [Happening.Only, entriesOnly, Entry.Only, Action.isBuiltin_nextWindow,
      Action.isBuiltin_activate])
    (by simp [HostChange.NeverFocuses]) (by decide)
  revert hexclusive
  decide

end Engine

end WindowActions
