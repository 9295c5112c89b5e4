import WindowActions.Pattern.Engine
import WindowActions.Proofs.Builtin.Confined
import WindowActions.Proofs.Builtin.Exclusive

/-!
# Icons and the focus

Between sessions a client that is an icon should not have the focus. `Activate` and a commit show
the client that they focus, and `Iconify` takes the focus away, but a preview and a revert move the
focus alone. So a session may show the focus on an icon, and its end has to put this right.

`CycleState.Shows` is what a session preserves for that: only the previewed candidate can be an icon
with the focus, and no client that a revert would give the focus to is an icon. It takes two things
of what happens during a session: when a list runs, the candidates are still there, so that the
preview never stays behind the cursor, and no client that had the focus before the session is turned
into an icon. `Engine.no_focused_icon` says that they are enough, and `Engine.focused_icon_left`
that without either an icon can keep the focus after the session.
-/

namespace WindowActions

variable {S : Type} [Seat S]

def ClientState.IsFocusedIcon (state : ClientState) : Prop :=
  state.focused = true ∧ state.iconic = true

instance (state : ClientState) : Decidable state.IsFocusedIcon :=
  inferInstanceAs (Decidable (_ ∧ _))

/-- What a change of states may do without harm to icons: it makes no icon with the focus, and icons
of the clients in `refs` only. -/
structure Gentle (refs : List ClientRef) (f : Client → ClientState) : Prop where
  focusedIcon : ∀ c, (f c).IsFocusedIcon → c.state.IsFocusedIcon
  iconic : ∀ c, (f c).iconic = true → c.state.iconic = true ∨ c.ref ∈ refs

theorem Gentle.mono {refs : List ClientRef} {f : Client → ClientState} (h : Gentle [] f) :
    Gentle refs f :=
  ⟨h.focusedIcon, fun c hc => Or.inl ((h.iconic c hc).resolve_right List.not_mem_nil)⟩

namespace ClientStore

variable {store : ClientStore} {c : Client} {r : ClientRef}

def NoFocusedIcon (store : ClientStore) : Prop :=
  ∀ c ∈ store.managed, ¬ c.state.IsFocusedIcon

instance (store : ClientStore) : Decidable store.NoFocusedIcon :=
  inferInstanceAs (Decidable (∀ c ∈ store.managed, _))

/-- The same clients, possibly in other states. -/
def Restated (before after : ClientStore) : Prop := ∃ f, after = before.mapLive f

namespace Restated

variable {first second third : ClientStore}

theorem refl (store : ClientStore) : Restated store store := ⟨_, store.mapLive_self.symm⟩

theorem trans (h : Restated first second) (h' : Restated second third) : Restated first third := by
  obtain ⟨f, rfl⟩ := h
  obtain ⟨g, rfl⟩ := h'
  exact ⟨_, mapLive_mapLive first f g⟩

theorem focus (store : ClientStore) (r : ClientRef) : Restated store (store.focus r) :=
  ⟨_, focus_eq store r⟩

theorem isLive_eq (h : Restated first second) (r : ClientRef) :
    second.isLive r = first.isLive r := by
  obtain ⟨f, rfl⟩ := h
  exact isLive_mapLive first f r

theorem targets_eq (h : Restated first second) (set : Option ClientSet) :
    targets set second = targets set first := by
  obtain ⟨f, rfl⟩ := h
  exact targets_mapLive set first f

end Restated

theorem gentle_refocused (r : ClientRef) : Gentle [] (refocused r) := by
  constructor
  · intro c hc
    by_cases href : c.ref = r
    · simp [ClientState.IsFocusedIcon, refocused, href] at hc
    · by_cases hmanaged : c.managed = true
      · simp [ClientState.IsFocusedIcon, refocused, href, hmanaged] at hc
      · simpa [ClientState.IsFocusedIcon, refocused, href, hmanaged] using hc
  · intro c hc
    by_cases href : c.ref = r
    · simp [refocused, href] at hc
    · simp only [refocused, if_neg href] at hc
      exact Or.inl hc

/-- Giving the focus to a client takes it from every icon. -/
theorem noFocusedIcon_focus (store : ClientStore) (r : ClientRef) :
    (store.focus r).NoFocusedIcon := by
  intro c hc hboth
  rw [focus_eq, managed_mapLive, List.mem_map] at hc
  obtain ⟨c, hc, rfl⟩ := hc
  obtain ⟨hfocus, hicon⟩ := hboth
  simp only [refocused, (List.mem_filter.1 hc).2, if_true, beq_iff_eq] at hfocus
  simp [refocused, hfocus] at hicon

end ClientStore

theorem Behavior.IsPlain.not_cycle (slot : Nat) (direction : Direction) :
    ¬ (Cycle.behavior slot direction).IsPlain := by
  have hresume : ∀ behavior : Behavior, behavior.IsPlain →
      (behavior.input 0 ⟨.motion, 0, 0⟩ { clients := .empty }).1.resume = false := by
    intro behavior h
    cases h <;> rfl
  intro h
  cases hresume _ h

namespace Action.IsBuiltin

variable {action : Action}

theorem interactive_of_isPlain (h : action.IsBuiltin) (hplain : action.behavior.IsPlain) :
    action.info.interactive = false := by
  rcases h.cases with ⟨hinteractive, -⟩ | ⟨-, direction, hbehavior⟩
  · exact hinteractive
  · rw [hbehavior] at hplain
    exact absurd hplain (Behavior.IsPlain.not_cycle _ _)

/-- Of the plain actions only `Iconify` makes icons, and it does so of its targets. -/
theorem gentle_run (h : action.IsBuiltin) (hplain : action.behavior.IsPlain)
    (set : Option ClientSet) (data : ActionData) (d : Desktop) :
    ∃ f, (action.behavior.run set data d).2.clients = d.clients.mapLive f ∧
      Gentle (if action.info.name = "Iconify" then targets set d.clients else []) f := by
  have hsame : ∃ f, d.clients = d.clients.mapLive f ∧
      Gentle (if action.info.name = "Iconify" then targets set d.clients else []) f :=
    ⟨_, d.clients.mapLive_self.symm, fun _ hc => hc, fun _ hc => Or.inl hc⟩
  obtain ⟨entry, hentry, hname, -, -, hsetup⟩ := h
  simp only [builtinActions, List.mem_cons, List.not_mem_nil, or_false] at hentry
  rcases hentry with rfl | rfl | rfl | rfl | rfl | rfl
  case inr.inr.inr.inl =>
      simp only [executeSetup, Except.ok.injEq, Option.map_eq_some_iff] at hsetup
      obtain ⟨command, -, hbehavior⟩ := hsetup
      rw [← hbehavior]
      simp only [executeBehavior, Behavior.simple]
      split <;> exact hsame
  all_goals
    simp only [plainSetup, Except.ok.injEq, Option.some.injEq] at hsetup
    rw [← hsetup] at hplain ⊢
  · -- `Close`
    refine ⟨_, rfl, fun c hc => ?_, fun c hc => Or.inl ?_⟩
    · by_cases hmem : c.ref ∈ targets set d.clients
      · rwa [if_pos hmem] at hc
      · rwa [if_neg hmem] at hc
    · by_cases hmem : c.ref ∈ targets set d.clients
      · rwa [if_pos hmem] at hc
      · rwa [if_neg hmem] at hc
  · -- `Activate`
    simp only [activateBehavior, Behavior.simple]
    split
    · rename_i r _ _
      exact ⟨_, d.clients.focus_eq r, (ClientStore.gentle_refocused r).mono⟩
    · exact hsame
  · -- `Iconify`
    rw [if_pos hname]
    refine ⟨_, rfl, fun c hc => ?_, fun c hc => ?_⟩
    · by_cases hmem : c.ref ∈ targets set d.clients
      · rw [if_pos hmem] at hc
        cases hc.1
      · rwa [if_neg hmem] at hc
    · by_cases hmem : c.ref ∈ targets set d.clients
      · exact Or.inr hmem
      · rw [if_neg hmem] at hc
        exact Or.inl hc
  · exact absurd hplain (Behavior.IsPlain.not_cycle _ _)
  · exact absurd hplain (Behavior.IsPlain.not_cycle _ _)

end Action.IsBuiltin

/-- What a session preserves so that its end leaves no icon with the focus. Only the previewed
candidate may be one, and no client that had the focus before is an icon. -/
structure CycleState.Shows (state : CycleState) (store : ClientStore) : Prop where
  shown : ∀ c ∈ store.managed, c.state.IsFocusedIcon →
    state.target? = some c.ref ∧ c.ref ∈ state.known
  before : ∀ c ∈ store.managed, (c.ref, true) ∈ state.focusBefore → c.state.iconic = false
  /-- The clients that come later are not known. -/
  past : ∀ r ∈ state.known, r.serial < store.nextSerial

namespace CycleState

variable {state : CycleState} {store : ClientStore} {r : ClientRef}

theorem shows_empty (h : store.NoFocusedIcon) : ({} : CycleState).Shows store := by
  refine ⟨fun c hc hboth => absurd hboth (h c hc), fun c _ hmem => ?_, fun r hr => ?_⟩
  · cases hmem
  · cases hr

theorem shows_collect (h : store.NoFocusedIcon) (set : ClientSet) :
    (collect store set).Shows store := by
  refine ⟨fun c hc hboth => absurd hboth (h c hc), fun c hc hmem => ?_, fun r hr => ?_⟩
  · obtain ⟨d, hd, heq⟩ := List.mem_map.1 hmem
    rw [Prod.mk.injEq] at heq
    rw [ClientStore.eq_of_managed_ref_eq hd hc heq.1] at heq
    exact Bool.eq_false_iff.2 fun hicon => h c hc ⟨heq.2, hicon⟩
  · simp only [known, collect, List.map_map, List.mem_map] at hr
    obtain ⟨c, hc, rfl⟩ := hr
    exact store.serials_below c (ClientStore.mem_live_of_mem_managed hc)

namespace Shows

/-- A commit that finds its candidate gone does no harm. -/
theorem noFocusedIcon (h : state.Shows store)
    (hgone : ∀ r, state.target? = some r → store.isLive r = false) : store.NoFocusedIcon := by
  intro c hc hboth
  have hdead := hgone c.ref (h.shown c hc hboth).1
  rw [ClientStore.isLive_ref hc] at hdead
  cases hdead

theorem mapLive {refs : List ClientRef} {f : Client → ClientState} (h : state.Shows store)
    (hf : Gentle refs f) (hspared : ∀ r ∈ refs, (r, true) ∉ state.focusBefore) :
    state.Shows (store.mapLive f) := by
  constructor
  · intro c hc hboth
    rw [ClientStore.managed_mapLive, List.mem_map] at hc
    obtain ⟨c, hc, rfl⟩ := hc
    exact h.shown c hc (hf.focusedIcon c hboth)
  · intro c hc hmem
    rw [ClientStore.managed_mapLive, List.mem_map] at hc
    obtain ⟨c, hc, rfl⟩ := hc
    refine Bool.eq_false_iff.2 fun hicon => ?_
    rcases hf.iconic c hicon with hold | hrefs
    · rw [h.before c hc hmem] at hold
      cases hold
    · exact hspared c.ref hrefs hmem
  · exact h.past

/-- The preview of a candidate takes the focus from the icon that had it. -/
theorem preview (h : state.Shows store) {direction : Direction}
    (htarget : (state.moved direction).target? = some r) :
    (state.moved direction).Shows (store.preview state.known r) := by
  constructor
  · intro c hc hboth
    rw [ClientStore.preview_eq, ClientStore.managed_mapLive, List.mem_map] at hc
    obtain ⟨c, hc, rfl⟩ := hc
    by_cases hknown : c.ref ∈ state.known
    · have hfocus := hboth.1
      simp only [ClientStore.previewed, if_pos hknown, beq_iff_eq] at hfocus
      exact ⟨hfocus ▸ htarget, hknown⟩
    · simp only [ClientStore.previewed, if_neg hknown] at hboth
      exact absurd (h.shown c hc hboth).2 hknown
  · intro c hc hmem
    rw [ClientStore.preview_eq, ClientStore.managed_mapLive, List.mem_map] at hc
    obtain ⟨c, hc, rfl⟩ := hc
    have hicon := h.before c hc hmem
    by_cases hknown : c.ref ∈ state.known
    · simpa [ClientStore.previewed, hknown] using hicon
    · simpa [ClientStore.previewed, hknown] using hicon
  · exact h.past

end Shows

end CycleState

namespace Cycle

variable {slot : Nat} {direction : Direction} {set : Option ClientSet} {data : ActionData}
  {d d' : Desktop} {begun : Bool}

theorem noFocusedIcon_revert (h : (d.cycles slot).Shows d.clients) :
    (revert slot d).clients.NoFocusedIcon := by
  rintro c hc ⟨hfocus, hicon⟩
  rw [revert, Desktop.withClients, ClientStore.mapManaged, ClientStore.managed_mapLive,
    List.mem_map] at hc
  obtain ⟨c, hc, rfl⟩ := hc
  simp only [(List.mem_filter.1 hc).2, if_true] at hfocus hicon
  rw [h.before c hc (mem_of_lookup_focus hfocus)] at hicon
  cases hicon

theorem noFocusedIcon_commit (h : (d.cycles slot).Shows d.clients) :
    (commit slot d).clients.NoFocusedIcon := by
  cases htarget : (d.cycles slot).target? with
  | none =>
      have hsame : commit slot d = d := by simp [commit, htarget]
      rw [hsame]
      exact h.noFocusedIcon (by simp [htarget])
  | some r =>
      cases hlive : d.clients.isLive r with
      | true =>
          have hfocus : (commit slot d).clients = d.clients.focus r := by
            simp [commit, htarget, hlive, Desktop.withClients]
          rw [hfocus]
          exact d.clients.noFocusedIcon_focus r
      | false =>
          have hsame : commit slot d = d := by simp [commit, htarget, hlive]
          rw [hsame]
          exact h.noFocusedIcon (by simp [htarget, hlive])

/-- If all candidates are still there, moving the preview shows the one under the cursor. -/
theorem shows_move (h : (d.cycles slot).Shows d.clients) (hsome : (d.cycles slot).candidates ≠ [])
    (hlive : ∀ r ∈ (d.cycles slot).candidates, d.clients.isLive r = true) :
    ((move slot direction d).cycles slot).Shows (move slot direction d).clients := by
  have hlt := direction.next_lt (List.length_pos_iff.2 hsome) (d.cycles slot).cursor
  have htarget : ((d.cycles slot).moved direction).target? =
      some ((d.cycles slot).candidates[direction.next (d.cycles slot).candidates.length
        (d.cycles slot).cursor]) := List.getElem?_eq_getElem hlt
  have hmove : (move slot direction d).clients = d.clients.preview (d.cycles slot).known
      ((d.cycles slot).candidates[direction.next (d.cycles slot).candidates.length
        (d.cycles slot).cursor]) := by
    simp [move, htarget, hlive _ (List.getElem_mem hlt), Desktop.withClients]
  rw [cycles_move, Desktop.setCycle_same, hmove]
  exact h.preview htarget

theorem Ready.shows {ready : Desktop} (h : Ready slot set d ready)
    (hshows : (d.cycles slot).Shows d.clients) :
    (ready.cycles slot).Shows ready.clients := by
  cases h with
  | going => exact hshows
  | begun fresh =>
      have htarget : (d.cycles slot).target? = none := by
        simp [CycleState.target?, fresh]
      rw [Desktop.setCycle_same]
      exact CycleState.shows_collect (hshows.noFocusedIcon (by simp [htarget])) _

theorem Ready.isLive_candidates {ready : Desktop} (h : Ready slot set d ready)
    (hlive : ∀ r ∈ (d.cycles slot).candidates, d.clients.isLive r = true) :
    ∀ r ∈ (ready.cycles slot).candidates, ready.clients.isLive r = true := by
  cases h with
  | going => exact hlive
  | begun fresh =>
      rw [Desktop.setCycle_same]
      intro r hr
      obtain ⟨c, hc, rfl⟩ := List.mem_map.1 hr
      exact ClientStore.isLive_iff.2
        ⟨c, ClientSet.mem_live_of_mem_clients (List.mem_filter.1 hc).1, rfl⟩

/-- A run of a cycle either goes on as it should, or it leaves no icon with the focus. -/
theorem Ran.shows (h : Ran slot direction set data d begun d')
    (hshows : (d.cycles slot).Shows d.clients)
    (hlive : ∀ r ∈ (d.cycles slot).candidates, d.clients.isLive r = true) :
    if begun then (d'.cycles slot).Shows d'.clients else d'.clients.NoFocusedIcon := by
  cases h with
  | nobody hready hnone =>
      have htarget : (d'.cycles slot).target? = none := by
        simp [CycleState.target?, hnone]
      exact (hready.shows hshows).noFocusedIcon (by simp [htarget])
  | committed hready hsome =>
      exact noFocusedIcon_commit
        (shows_move (hready.shows hshows) hsome (hready.isLive_candidates hlive))
  | previewed hready hsome =>
      exact shows_move (hready.shows hshows) hsome (hready.isLive_candidates hlive)

end Cycle

/-- The cycle of the session. Without a session it is the empty one. -/
def Desktop.cycleOf (d : Desktop) : Option Session → CycleState
  | none => {}
  | some session => d.cycles session.action.info.id

theorem Desktop.cycleOf_congr {d d' : Desktop} (h : d'.cycles = d.cycles)
    (session : Option Session) : d'.cycleOf session = d.cycleOf session := by
  cases session with
  | none => rfl
  | some session => exact congrFun h session.action.info.id

/-- The session can be ended without leaving an icon with the focus. -/
structure Restorable (session : Option Session) (d : Desktop) : Prop where
  tidy : Tidy (fun _ => True) session d
  shows : (d.cycleOf session).Shows d.clients

namespace Restorable

variable {session session' : Option Session} {d d' : Desktop} {action : Action}
  {set : Option ClientSet} {data : ActionData} {begun : Bool}

theorem idle (htidy : Tidy (fun _ => True) none d) (h : d.clients.NoFocusedIcon) :
    Restorable none d :=
  ⟨htidy, CycleState.shows_empty h⟩

theorem noFocusedIcon (h : Restorable none d) : d.clients.NoFocusedIcon :=
  h.shows.noFocusedIcon (by simp [Desktop.cycleOf, CycleState.target?])

theorem congr (h : Restorable session d) (hcycles : d'.cycles = d.cycles)
    (hclients : d'.clients = d.clients) : Restorable session d' := by
  refine ⟨h.tidy.congr hcycles, ?_⟩
  rw [Desktop.cycleOf_congr hcycles, hclients]
  exact h.shows

theorem abort (h : Restorable session d) : Restorable none (d.abort session) := by
  refine idle h.tidy.abort ?_
  cases session with
  | none => exact h.noFocusedIcon
  | some session =>
      obtain ⟨htame, hinteractive, -⟩ := h.tidy
      obtain ⟨direction, hbehavior⟩ := htame.cycle hinteractive trivial
      rw [Desktop.abort, hbehavior]
      exact Cycle.noFocusedIcon_revert h.shows

/-- What a builtin action does, provided that the candidates of the session are still there and that
no client that had the focus before the session is turned into an icon. -/
theorem deed (h : Restorable session d) (hbuiltin : action.IsBuiltin)
    (hlive : ∀ r ∈ (d.cycleOf session).candidates, d.clients.isLive r = true)
    (hspared : action.info.interactive = false → action.info.name = "Iconify" →
      ∀ r ∈ targets set d.clients, (r, true) ∉ (d.cycleOf session).focusBefore)
    (hdeed : Deed action set data session d begun session' d') : Restorable session' d' := by
  have htidy := h.tidy.deed hbuiltin.isTame hdeed
  have habort := h.abort
  have hfresh : ∀ slot, ((d.abort session).cycles slot).Shows (d.abort session).clients ∧
      ∀ r ∈ ((d.abort session).cycles slot).candidates,
        (d.abort session).clients.isLive r = true := by
    intro slot
    rw [h.tidy.abort slot]
    exact ⟨habort.shows, by simp⟩
  cases hdeed.builtin hbuiltin with
  | plain isPlain =>
      obtain ⟨f, hclients, hgentle⟩ := hbuiltin.gentle_run isPlain set data d
      refine ⟨htidy, ?_⟩
      rw [Desktop.cycleOf_congr (isPlain.cycles_run set data d), hclients]
      refine h.shows.mapLive hgentle fun r hr => ?_
      by_cases hname : action.info.name = "Iconify"
      · rw [if_pos hname] at hr
        exact hspared (hbuiltin.interactive_of_isPlain isPlain) hname r hr
      · rw [if_neg hname] at hr
        cases hr
  | continued same run =>
      have hshows := h.shows
      simp only [Desktop.cycleOf, same] at hshows hlive
      have hran := (Cycle.ran run).shows hshows hlive
      exact ⟨htidy, hran⟩
  | finished same run =>
      have hshows := h.shows
      simp only [Desktop.cycleOf, same] at hshows hlive
      have hran := (Cycle.ran run).shows hshows hlive
      exact idle htidy hran
  | refused => exact idle htidy habort.noFocusedIcon
  | opened run =>
      have hran := (Cycle.ran run).shows (hfresh _).1 (hfresh _).2
      exact ⟨htidy, hran⟩
  | fruitless run =>
      have hran := (Cycle.ran run).shows (hfresh _).1 (hfresh _).2
      exact idle htidy hran

theorem input {stage : Stage S} (h : Restorable stage.session stage.desktop) (event : InputEvent) :
    Restorable (stage.input event).2.session (stage.input event).2.desktop := by
  have htidy := Engine.tidy_input stage event h.tidy
  cases hsession : stage.session with
  | none => rwa [Stage.input_none hsession]
  | some session =>
      rw [hsession] at h
      rcases Engine.input_cycle h.tidy hsession event with ⟨hs, hd⟩ | ⟨d, hends, hs, hd⟩
      · rw [hs, hd]
        exact h
      · rw [hs] at htidy ⊢
        refine idle htidy ?_
        rw [hd]
        rcases hends with rfl | rfl
        · exact Cycle.noFocusedIcon_revert h.shows
        · exact Cycle.noFocusedIcon_commit h.shows

end Restorable

namespace ClientStore.Restated

variable {slot : Nat} {direction : Direction} {d d' : Desktop}

theorem commit (slot : Nat) (d : Desktop) : Restated d.clients (Cycle.commit slot d).clients := by
  rcases Cycle.clients_commit slot d with heq | ⟨r, -, heq⟩
  · rw [heq]
    exact .refl _
  · rw [heq]
    exact .focus _ r

theorem ran {set : Option ClientSet} {data : ActionData} {begun : Bool}
    (h : Cycle.Ran slot direction set data d begun d') : Restated d.clients d'.clients := by
  have hmove : ∀ {ready : Desktop}, Cycle.Ready slot set d ready →
      Restated d.clients (Cycle.move slot direction ready).clients := by
    intro ready hready
    rw [← hready.clients_eq]
    rcases Cycle.clients_move slot direction ready with ⟨heq, -⟩ | ⟨r, -, heq, -⟩
    · rw [heq]
      exact .refl _
    · exact ⟨_, heq⟩
  cases h with
  | nobody hready => exact hready.clients_eq ▸ .refl _
  | committed hready => exact (hmove hready).trans (.commit slot _)
  | previewed hready => exact hmove hready

theorem abort {session : Option Session} (h : Tidy (fun _ => True) session d) :
    Restated d.clients (d.abort session).clients := by
  cases session with
  | none => exact .refl _
  | some session =>
      obtain ⟨direction, hbehavior⟩ := h.1.cycle h.2.1 trivial
      rw [Desktop.abort, hbehavior]
      exact ⟨_, rfl⟩

theorem deed {action : Action} {set : Option ClientSet} {data : ActionData} {begun : Bool}
    {session session' : Option Session} (htidy : Tidy (fun _ => True) session d)
    (hbuiltin : action.IsBuiltin) (hdeed : Deed action set data session d begun session' d') :
    Restated d.clients d'.clients := by
  cases hdeed.builtin hbuiltin with
  | plain isPlain =>
      obtain ⟨f, hclients, -⟩ := hbuiltin.gentle_run isPlain set data d
      exact ⟨f, hclients⟩
  | continued same run => exact ran (Cycle.ran run)
  | finished same run =>
      have hrun := ran (Cycle.ran run)
      exact hrun
  | refused => exact abort htidy
  | opened run => exact (abort htidy).trans (ran (Cycle.ran run))
  | fruitless run =>
      have hrun := ran (Cycle.ran run)
      exact (abort htidy).trans hrun

end ClientStore.Restated

theorem Turn.ran_mem {action : Action} {set : Option ClientSet} {data : ActionData} {begun : Bool}
    {session session' : Option Session} {new : List Signal}
    (h : Turn action set data session begun new session')
    (hplain : action.info.interactive = false) : ∃ started, .ran action set data started ∈ new := by
  cases h with
  | aside plain => exact ⟨_, List.mem_singleton_self _⟩
  | continued interactive | finished interactive | declined interactive | refused interactive
  | opened interactive | fruitless interactive => simp [hplain] at interactive

theorem Deed.cycleOf {action : Action} {set : Option ClientSet} {data : ActionData}
    {d d' : Desktop} {session session' : Option Session} (hbuiltin : action.IsBuiltin)
    (h : Deed action set data session d false session' d') :
    session' = none ∨ d'.cycleOf session' = d.cycleOf session := by
  cases h.builtin hbuiltin with
  | plain isPlain => exact Or.inr (Desktop.cycleOf_congr (isPlain.cycles_run set data d) session)
  | finished | refused | fruitless => exact Or.inl rfl

/-- What the signal tells of does not turn a client into an icon that had the focus before the
session with which a stage began. -/
def Signal.Spares (start : Stage S) : Signal → Prop
  | .ran action set _ _ => action.info.name = "Iconify" →
      ∀ r ∈ targets set start.desktop.clients,
        (r, true) ∉ (start.desktop.cycleOf start.session).focusBefore
  | _ => True

instance (start : Stage S) : (signal : Signal) → Decidable (signal.Spares start)
  | .ran .. => inferInstanceAs (Decidable (_ → _))
  | .tested _ | .asked .. | .grabbed .. | .gotInput .. | .cancelled _ | .released _ | .ended _ =>
    isTrue trivial

/-- What a run preserves, compared with the stage that it began with. Until a session has begun the
session is the one from the start, or none. -/
structure Spared (start : Stage S) (begun : Bool) (stage : Stage S) : Prop where
  restorable : Restorable stage.session stage.desktop
  restated : start.desktop.clients.Restated stage.desktop.clients
  cycle : begun = false → stage.session = none ∨
    stage.desktop.cycleOf stage.session = start.desktop.cycleOf start.session

namespace Spared

variable {start stage : Stage S} {action : Action} {incoming : Option ClientSet}
  {data : ActionData}

theorem turned (h : Spared start false stage) (hbuiltin : action.IsBuiltin)
    (hlive : ∀ r ∈ (start.desktop.cycleOf start.session).candidates,
      start.desktop.clients.isLive r = true)
    (hspared : action.info.interactive = false →
      ∃ started, Signal.Spares start (.ran action (action.targetSet incoming data) data started)) :
    Spared start (stage.runAction action incoming data).1
      (stage.runAction action incoming data).2 := by
  have hdeed := stage.runAction_deed action incoming data
  have htidy := h.restorable.tidy
  refine ⟨h.restorable.deed hbuiltin ?_ ?_ hdeed,
    h.restated.trans (.deed htidy hbuiltin hdeed), fun hbegun => ?_⟩
  · rcases h.cycle rfl with hnone | hcycle
    · simp [hnone, Desktop.cycleOf]
    · simpa only [hcycle, h.restated.isLive_eq] using hlive
  · intro hplain hname r hr
    rcases h.cycle rfl with hnone | hcycle
    · simp [hnone, Desktop.cycleOf]
    · obtain ⟨started, hspares⟩ := hspared hplain
      rw [h.restated.targets_eq] at hr
      rw [hcycle]
      exact hspares hname r hr
  · rw [hbegun] at hdeed
    rcases hdeed.cycleOf hbuiltin with hnone | hsame
    · exact Or.inl hnone
    · rcases h.cycle rfl with hnone | hcycle
      · rw [hnone] at hdeed
        exact Or.inl hdeed.not_begun
      · exact Or.inr (hsame.trans hcycle)

/-- A run is as it should be if its signals so far are. -/
theorem invariant (start : Stage S) (data : ActionData)
    (hlive : ∀ r ∈ (start.desktop.cycleOf start.session).candidates,
      start.desktop.clients.isLive r = true) :
    RunInvariant Action.IsBuiltin (fun _ => True) data fun begun (stage : Stage S) =>
      ∃ new, stage.journal = start.journal ++ new ∧
        ((∀ signal ∈ new, signal.Spares start) → Spared start begun stage) where
  tested stage isMatch h := by
    obtain ⟨new, hjournal, hnew⟩ := h
    refine ⟨new ++ [.tested isMatch], ?_, fun hspares => ?_⟩
    · rw [Stage.signal, hjournal, List.append_assoc]
    · have hbefore := hnew fun signal hmem => hspares signal (List.mem_append_left _ hmem)
      exact ⟨hbefore.restorable, hbefore.restated, hbefore.cycle⟩
  selected _ _ _ _ _ _ := trivial
  turned stage incoming action h _ hbuiltin := by
    obtain ⟨new, hjournal, hnew⟩ := h
    obtain ⟨more, hw, hturn⟩ := stage.runAction_turn action incoming data
    refine ⟨new ++ more, by rw [hw.journal, hjournal, List.append_assoc], fun hspares => ?_⟩
    refine (hnew fun signal hmem => hspares signal (List.mem_append_left _ hmem)).turned
      hbuiltin hlive fun hplain => ?_
    obtain ⟨started, hmem⟩ := hturn.ran_mem hplain
    exact ⟨started, hspares _ (List.mem_append_right _ hmem)⟩

end Spared

/-- The surroundings do not make an icon with the focus, and what they do to clients that are there
is neither to focus them nor to turn them into icons. -/
def HostChange.NeverFocusesIcons : HostChange S → Prop
  | .manage _ state => ¬ state.IsFocusedIcon
  | .restate f => ∀ c, ((f c).focused = true → c.state.focused = true) ∧
      ((f c).iconic = true → c.state.iconic = true)
  | _ => True

omit [Seat S] in
theorem HostChange.shows_onClients {change : HostChange S} (hquiet : change.NeverFocusesIcons)
    {store : ClientStore} {state : CycleState} (h : state.Shows store) :
    state.Shows (change.onClients store) := by
  have hsub : ∀ {store' : ClientStore}, (∀ c ∈ store'.managed, c ∈ store.managed) →
      store'.nextSerial = store.nextSerial → state.Shows store' := by
    intro store' hsub hserial
    refine ⟨fun c hc => h.shown c (hsub c hc), fun c hc => h.before c (hsub c hc), ?_⟩
    rw [hserial]
    exact h.past
  cases change with
  | seat f => exact h
  | unmanage window => exact hsub (fun c => ClientStore.mem_managed_keep) rfl
  | release r => exact hsub (fun c => ClientStore.mem_managed_keep) rfl
  | retire window => exact hsub (fun c => ClientStore.mem_managed_retire) rfl
  | restate f =>
      have hgentle : Gentle [] f :=
        ⟨fun c hc => ⟨(hquiet c).1 hc.1, (hquiet c).2 hc.2⟩, fun c hc => Or.inl ((hquiet c).2 hc)⟩
      exact h.mapLive hgentle (by simp)
  | manage window new =>
      rcases store.manage_cases window new with hsame | ⟨hmanaged, hserial⟩
      · rw [onClients, hsame]
        exact h
      · rw [onClients]
        constructor
        · intro c hc hboth
          rw [hmanaged, List.mem_append, List.mem_singleton] at hc
          rcases hc with hc | rfl
          · exact h.shown c hc hboth
          · exact absurd hboth hquiet
        · intro c hc hmem
          rw [hmanaged, List.mem_append, List.mem_singleton] at hc
          rcases hc with hc | rfl
          · exact h.before c hc hmem
          · have hold := h.past _ (List.mem_map_of_mem hmem)
            exact absurd hold (Nat.lt_irrefl _)
        · intro r hr
          rw [hserial]
          exact Nat.lt_succ_of_lt (h.past r hr)

namespace Engine

theorem restorable_happen {engine : Engine S} {happening : Happening (HostChange S)}
    (hbuiltin : happening.Only Action.IsBuiltin)
    (hquiet : ∀ change, happening = .host change → change.NeverFocusesIcons)
    (hlive : ∀ list trigger, happening = .call (.run list trigger) →
      ∀ r ∈ (engine.stage.desktop.cycleOf engine.stage.session).candidates,
        engine.stage.desktop.clients.isLive r = true)
    (hspared : ∀ signal ∈ (engine.happen HostChange.apply happening).stage.journal.drop
      engine.stage.journal.length, signal.Spares engine.stage)
    (h : Restorable engine.stage.session engine.stage.desktop) :
    Restorable (engine.happen HostChange.apply happening).stage.session
      (engine.happen HostChange.apply happening).stage.desktop := by
  have hcancel : Restorable engine.stage.cancel.session engine.stage.cancel.desktop := by
    rw [Stage.session_cancel, Stage.desktop_cancel]
    exact h.abort
  cases happening with
  | parse source =>
      obtain ⟨hcycles, hclients⟩ := engine.stage.desktop.foldl_warn
        (engine.vocabulary.parse source).warnings
      exact h.congr hcycles hclients
  | host change =>
      exact ⟨h.tidy.congr rfl, change.shows_onClients (hquiet change rfl) h.shows⟩
  | call call =>
      cases call with
      | input event => exact h.input event
      | cancel => exact hcancel
      | shutdown => exact hcancel
      | run list trigger =>
          obtain ⟨new, hjournal, hnew⟩ := (Spared.invariant engine.stage
            (trigger.data engine.stage) (hlive list trigger rfl)).runList
            ⟨[], (List.append_nil _).symm, fun _ => ⟨h, .refl _, fun _ => Or.inr rfl⟩⟩ trivial
            hbuiltin
          rw [show (engine.happen HostChange.apply (.call (.run list trigger))).stage.journal =
            engine.stage.journal ++ new from hjournal, List.drop_left] at hspared
          exact (hnew hspared).restorable

/-- Between sessions no managed client is an icon with the focus, provided that lists run during a
session only as long as its candidates are all there, and that during a session no client that had
the focus before is turned into an icon. -/
theorem no_focused_icon (vocabulary : Vocabulary) (seat : S) (clients : ClientStore)
    (hstart : clients.NoFocusedIcon) (happenings : List (Happening (HostChange S)))
    (hbuiltin : ∀ happening ∈ happenings, happening.Only Action.IsBuiltin)
    (hquiet : ∀ change, .host change ∈ happenings → change.NeverFocusesIcons) :
    let stage n := (Engine.after HostChange.apply ⟨vocabulary, { seat, desktop := { clients } }⟩
      (happenings.take n)).stage
    (∀ n list trigger, happenings[n]? = some (.call (.run list trigger)) →
      ∀ r ∈ ((stage n).desktop.cycleOf (stage n).session).candidates,
        (stage n).desktop.clients.isLive r = true) →
    (∀ n, ∀ signal ∈ (stage (n + 1)).journal.drop (stage n).journal.length,
      signal.Spares (stage n)) →
    ∀ n, (stage n).isRunning = false → (stage n).desktop.clients.NoFocusedIcon := by
  intro stage hlive hspared n hidle
  have hrestorable : Restorable (stage n).session (stage n).desktop := by
    refine after_induct_take
      (P := fun engine : Engine S => Restorable engine.stage.session engine.stage.desktop)
      (.idle (fun _ => rfl) hstart) (fun n happening hn hbefore => ?_) n
    have hmem : happening ∈ happenings := List.mem_of_getElem? hn
    refine restorable_happen (hbuiltin happening hmem)
      (fun change heq => hquiet change (heq ▸ hmem))
      (fun list trigger heq => hlive n list trigger (heq ▸ hn)) ?_ hbefore
    rw [← after_take_succ hn]
    exact hspared n
  have hnone : (stage n).session = none := by simpa [Stage.isRunning] using hidle
  rw [hnone] at hrestorable
  exact hrestorable.noFocusedIcon

/-- Here the icon 2 is previewed, client 3 becomes an icon, and the candidate 2 goes before its
commit. -/
theorem no_focused_icon_gone :
    let clients : ClientStore := .ofSpecs
      [⟨1, { focused := true }⟩, ⟨2, { iconic := true }⟩, ⟨3, {}⟩]
    let happenings : List (Happening (HostChange HeadlessSeat)) :=
      [.call (.run [.action (.nextWindow 4)] { state := 8 }),
        .call (.run [.action (.iconify 2)] { client := some ⟨2, 3⟩ }), .host (.unmanage 2),
        .call (.input ⟨.keyRelease, 64, 0⟩)]
    let stage n := (Engine.after HostChange.apply ⟨.builtin, { seat := {}, desktop := { clients } }⟩
      (happenings.take n)).stage
    clients.NoFocusedIcon ∧ (∀ happening ∈ happenings, happening.Only Action.IsBuiltin) ∧
    (∀ change, .host change ∈ happenings → change.NeverFocusesIcons) ∧
    (∀ n list trigger, happenings[n]? = some (.call (.run list trigger)) →
      ∀ r ∈ ((stage n).desktop.cycleOf (stage n).session).candidates,
        (stage n).desktop.clients.isLive r = true) ∧
    (∀ n, ∀ signal ∈ (stage (n + 1)).journal.drop (stage n).journal.length,
      signal.Spares (stage n)) ∧
    ¬ (stage 1).desktop.clients.NoFocusedIcon ∧
    ∀ n, (stage n).isRunning = false → (stage n).desktop.clients.NoFocusedIcon := by
  intro clients happenings stage
  have hstart : clients.NoFocusedIcon := by decide
  have hbuiltin : ∀ happening ∈ happenings, happening.Only Action.IsBuiltin := by
    simp [happenings, Happening.Only, entriesOnly, Entry.Only, Action.isBuiltin_nextWindow,
      Action.isBuiltin_iconify]
  have hquiet : ∀ change, .host change ∈ happenings → change.NeverFocusesIcons := by
    simp [happenings, HostChange.NeverFocusesIcons]
  have hlive : ∀ n list trigger, happenings[n]? = some (.call (.run list trigger)) →
      ∀ r ∈ ((stage n).desktop.cycleOf (stage n).session).candidates,
        (stage n).desktop.clients.isLive r = true := by
    intro n list trigger hn
    rcases n with _ | _ | _ | _ | n
    · decide
    · decide
    all_goals simp [happenings] at hn
  have hspared : ∀ n, ∀ signal ∈ (stage (n + 1)).journal.drop (stage n).journal.length,
      signal.Spares (stage n) := by
    intro n
    rcases n with _ | _ | _ | _ | n
    iterate 4 decide +kernel
    simp [stage, happenings]
  exact ⟨hstart, hbuiltin, hquiet, hlive, hspared, by decide,
    no_focused_icon .builtin {} clients hstart happenings hbuiltin hquiet hlive hspared⟩

/-- Neither condition can be left out. If all lists spare the clients that had the focus, but a
candidate is gone when the preview comes to it, then the commit leaves the focus on the icon that
was shown last. If nobody comes or goes, but the client that had the focus becomes an icon, then the
escape key gives it the focus again. -/
theorem focused_icon_left :
    (¬ ∀ (clients : ClientStore) (happenings : List (Happening (HostChange HeadlessSeat))),
      clients.NoFocusedIcon → (∀ happening ∈ happenings, happening.Only Action.IsBuiltin) →
      (∀ change, .host change ∈ happenings → change.NeverFocusesIcons) →
      (∀ happening ∈ happenings, happening.Only fun action => action.info.name ≠ "Iconify") →
      let engine := Engine.after HostChange.apply
        ⟨.builtin, { seat := {}, desktop := { clients } }⟩ happenings
      engine.stage.isRunning = false → engine.stage.desktop.clients.NoFocusedIcon) ∧
    ¬ ∀ (clients : ClientStore) (calls : List Call),
      clients.NoFocusedIcon →
      (∀ call ∈ calls, Happening.Only Action.IsBuiltin (H := Unit) (.call call)) →
      let engine := calls.foldl Engine.perform
        (⟨.builtin, { seat := {}, desktop := { clients } }⟩ : Engine HeadlessSeat)
      engine.stage.isRunning = false → engine.stage.desktop.clients.NoFocusedIcon := by
  constructor
  · intro h
    have hgone := h (.ofSpecs [⟨1, { focused := true }⟩, ⟨2, { iconic := true }⟩, ⟨3, {}⟩])
      [.call (.run [.action (.nextWindow 4)] { state := 8 }), .host (.unmanage 3),
        .call (.run [.action (.nextWindow 4)] { state := 8 }),
        .call (.input ⟨.keyRelease, 64, 0⟩)]
      (by decide)
      (by simp [Happening.Only, entriesOnly, Entry.Only, Action.isBuiltin_nextWindow])
      (by simp [HostChange.NeverFocusesIcons])
      (by simp [Happening.Only, entriesOnly, Entry.Only, Action.nextWindow]) (by decide)
    revert hgone
    decide
  · intro h
    have hicon := h (.ofSpecs [⟨1, { focused := true }⟩, ⟨2, {}⟩])
      [.run [.action (.nextWindow 4)] { state := 8 },
        .run [.action (.iconify 2)] { client := some ⟨0, 1⟩ }, .input ⟨.keyPress, 9, 8⟩]
      (by decide)
      (by simp [Happening.Only, entriesOnly, Entry.Only, Action.isBuiltin_nextWindow,
        Action.isBuiltin_iconify]) (by decide)
    revert hicon
    decide

end Engine

end WindowActions
