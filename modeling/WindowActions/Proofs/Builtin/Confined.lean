import WindowActions.Proofs.Builtin.Cycles
import WindowActions.Proofs.Selection.Within
import WindowActions.Proofs.Session.Keyboard

/-!
# Conditionals confine their effects

What the builtin actions do to a client that is not among their targets is to give it the focus or
to take it away. Inside of a conditional the targets are clients that it has selected, however deep
an action stands. So nothing but the focus changes of clients that a conditional has not selected,
and nothing at all changes if it has selected nobody: then cycles, too, end as soon as they begin.

`ClientStore.Confined` is the relation between the clients before and after that is kept by every
action, and `Confines` is what a run inside of the conditional preserves.
-/

namespace WindowActions

/-- The state after is the one before, except for the focus and, if the client is free, for its
being an icon and its being asked to close. -/
structure ClientState.Kept (free : Prop) (before after : ClientState) : Prop where
  title : after.title = before.title
  className : after.className = before.className
  desktop : after.desktop = before.desktop
  urgent : after.urgent = before.urgent
  iconic : ¬ free → after.iconic = before.iconic
  closed : ¬ free → after.closed = before.closed

namespace ClientState.Kept

variable {free : Prop} {first second third : ClientState}

theorem refl (free : Prop) (state : ClientState) : Kept free state state :=
  ⟨rfl, rfl, rfl, rfl, fun _ => rfl, fun _ => rfl⟩

theorem trans (h : Kept free first second) (h' : Kept free second third) :
    Kept free first third where
  title := h'.title.trans h.title
  className := h'.className.trans h.className
  desktop := h'.desktop.trans h.desktop
  urgent := h'.urgent.trans h.urgent
  iconic hfree := (h'.iconic hfree).trans (h.iconic hfree)
  closed hfree := (h'.closed hfree).trans (h.closed hfree)

theorem mono {wider : Prop} (h : Kept free first second) (himp : free → wider) :
    Kept wider first second :=
  ⟨h.title, h.className, h.desktop, h.urgent, fun hnot => h.iconic (mt himp hnot),
    fun hnot => h.closed (mt himp hnot)⟩

end ClientState.Kept

open ClientState (Kept)

namespace ClientStore

variable {refs : List ClientRef} {store first second third : ClientStore}

/-- The same clients, of which those without a reference in `refs` differ in their focus only. -/
def Confined (refs : List ClientRef) (before after : ClientStore) : Prop :=
  ∃ f, after = before.mapLive f ∧ ∀ c, Kept (c.ref ∈ refs) c.state (f c)

namespace Confined

theorem refl (refs : List ClientRef) (store : ClientStore) : Confined refs store store :=
  ⟨(·.state), (mapLive_self store).symm, fun c => .refl _ c.state⟩

theorem trans (h : Confined refs first second) (h' : Confined refs second third) :
    Confined refs first third := by
  obtain ⟨f, rfl, hf⟩ := h
  obtain ⟨g, rfl, hg⟩ := h'
  exact ⟨_, mapLive_mapLive first f g, fun c => (hf c).trans (hg (restated f c))⟩

end Confined

theorem confined_preview (refs : List ClientRef) (store : ClientStore) (others : List ClientRef)
    (r : ClientRef) : Confined refs store (store.preview others r) := by
  refine ⟨_, preview_eq store others r, fun c => ?_⟩
  rw [previewed]
  split
  · exact ⟨rfl, rfl, rfl, rfl, fun _ => rfl, fun _ => rfl⟩
  · exact .refl _ c.state

theorem confined_focus (store : ClientStore) {r : ClientRef} (h : r ∈ refs) :
    Confined refs store (store.focus r) := by
  refine ⟨_, focus_eq store r, fun c => ⟨rfl, rfl, rfl, rfl, fun hfree => ?_, fun _ => rfl⟩⟩
  have hne : c.ref ≠ r := fun href => hfree (href ▸ h)
  exact if_neg hne

end ClientStore

open ClientStore (Confined)

theorem targets_mapLive (set : Option ClientSet) (store : ClientStore)
    (f : Client → ClientState) : targets set (store.mapLive f) = targets set store := by
  cases set with
  | none => rfl
  | some set =>
      rw [targets, targets, ClientSet.clients_mapLive, List.map_map]
      rfl

theorem Desktop.confined_changeTargets (d : Desktop) (set : Option ClientSet)
    {refs : List ClientRef} {f : ClientState → ClientState}
    (hf : ∀ state, Kept True state (f state)) (h : ∀ r ∈ targets set d.clients, r ∈ refs) :
    Confined refs d.clients (d.changeTargets set f).clients := by
  refine ⟨_, rfl, fun c => ?_⟩
  by_cases hc : c.ref ∈ targets set d.clients
  · have hkept := hf c.state
    have hfree : c.ref ∈ refs := h c.ref hc
    rw [if_pos hc]
    exact ⟨hkept.title, hkept.className, hkept.desktop, hkept.urgent,
      fun hnot => absurd hfree hnot, fun hnot => absurd hfree hnot⟩
  · rw [if_neg hc]
    exact .refl _ c.state

theorem Desktop.changeTargets_of_nil (d : Desktop) {set : Option ClientSet}
    (f : ClientState → ClientState) (h : targets set d.clients = []) :
    (d.changeTargets set f).clients = d.clients := by
  have hrefs : ∀ c : Client, (if c.ref ∈ targets set d.clients then f c.state else c.state) =
      c.state := by simp [h]
  show d.clients.mapLive _ = d.clients
  simp only [hrefs]
  exact ClientStore.mapLive_self d.clients

namespace Behavior.IsPlain

variable {behavior : Behavior} {set : Option ClientSet} {d : Desktop}

theorem confined_run (h : behavior.IsPlain) (data : ActionData) {refs : List ClientRef}
    (htargets : ∀ r ∈ targets set d.clients, r ∈ refs) :
    Confined refs d.clients (behavior.run set data d).2.clients := by
  cases h with
  | close =>
      refine d.confined_changeTargets set (fun state => ?_) htargets
      exact ⟨rfl, rfl, rfl, rfl, fun _ => rfl, fun hfree => absurd trivial hfree⟩
  | iconify =>
      refine d.confined_changeTargets set (fun state => ?_) htargets
      exact ⟨rfl, rfl, rfl, rfl, fun hfree => absurd trivial hfree, fun _ => rfl⟩
  | activate =>
      simp only [activateBehavior, Behavior.simple]
      split
      case h_1 r rest hcons =>
          have hr : r ∈ targets set d.clients := hcons ▸ List.mem_cons_self
          exact ClientStore.confined_focus d.clients (htargets r hr)
      case h_2 => exact .refl refs d.clients
  | execute command =>
      simp only [executeBehavior, Behavior.simple]
      split <;> exact .refl refs d.clients

theorem run_of_nil (h : behavior.IsPlain) (data : ActionData)
    (htargets : targets set d.clients = []) : (behavior.run set data d).2.clients = d.clients := by
  cases h with
  | close | iconify => exact d.changeTargets_of_nil _ htargets
  | activate =>
      simp only [activateBehavior, Behavior.simple, htargets]
  | execute command =>
      simp only [executeBehavior, Behavior.simple]
      split <;> rfl

end Behavior.IsPlain

namespace Cycle

variable {slot : Nat} {direction : Direction} {set : Option ClientSet} {data : ActionData}
  {d d' : Desktop} {begun : Bool}

/-- The candidates of a cycle that begins are among the targets. -/
theorem Ready.candidates_targets (h : Ready slot set d d') (hempty : d.cycles slot = {}) :
    ∀ r ∈ (d'.cycles slot).candidates, r ∈ targets set d.clients := by
  intro r hr
  cases h with
  | going =>
      rw [hempty] at hr
      cases hr
  | @begun set _ fresh =>
      rw [Desktop.setCycle_same] at hr
      obtain ⟨c, hc, rfl⟩ := List.mem_map.1 hr
      exact List.mem_map_of_mem (List.mem_filter.1 hc).1

/-- A cycle that begins is confined to its targets. -/
theorem Ran.confined (h : Ran slot direction set data d begun d') {refs : List ClientRef}
    (hempty : d.cycles slot = {}) (htargets : ∀ r ∈ targets set d.clients, r ∈ refs) :
    Confined refs d.clients d'.clients := by
  have hmove : ∀ {ready : Desktop}, Ready slot set d ready →
      Confined refs d.clients (move slot direction ready).clients ∧
        Confined refs d.clients (commit slot (move slot direction ready)).clients := by
    intro ready hready
    rw [← hready.clients_eq]
    rcases clients_move slot direction ready with ⟨hmove, hcommit⟩ | ⟨r, hr, hmove, hcommit⟩
    · rw [hmove, hcommit]
      exact ⟨.refl refs ready.clients, .refl refs ready.clients⟩
    · have hpreview := ClientStore.confined_preview refs ready.clients (ready.cycles slot).known r
      have htarget : r ∈ refs := htargets r (hready.candidates_targets hempty r hr)
      rw [hmove, hcommit]
      exact ⟨hpreview, hpreview.trans (ClientStore.confined_focus _ htarget)⟩
  cases h with
  | nobody hready =>
      rw [hready.clients_eq]
      exact .refl refs d.clients
  | committed hready => exact (hmove hready).2
  | previewed hready => exact (hmove hready).1

theorem Ran.inert (h : Ran slot direction set data d begun d') (hempty : d.cycles slot = {})
    (htargets : targets set d.clients = []) : begun = false ∧ d'.clients = d.clients := by
  have hnobody : ∀ {ready : Desktop}, Ready slot set d ready →
      (ready.cycles slot).candidates = [] := by
    intro ready hready
    refine List.eq_nil_iff_forall_not_mem.2 fun r hr => ?_
    have hmem := hready.candidates_targets hempty r hr
    rw [htargets] at hmem
    cases hmem
  cases h with
  | nobody hready => exact ⟨rfl, hready.clients_eq⟩
  | committed hready hsome => exact absurd (hnobody hready) hsome
  | previewed hready hsome => exact absurd (hnobody hready) hsome

end Cycle

theorem Deed.not_begun {action : Action} {set : Option ClientSet} {data : ActionData}
    {d d' : Desktop} {session : Option Session} (h : Deed action set data none d false session d') :
    session = none := by
  cases h <;> rfl

/-- What a builtin action does without a session: it is confined to its targets, and without
targets it does nothing to the clients and begins no session. -/
theorem Deed.confined {action : Action} {set : Option ClientSet} {data : ActionData}
    {d d' : Desktop} {begun : Bool} {session : Option Session} {refs : List ClientRef}
    (h : Deed action set data none d begun session d') (hbuiltin : action.IsBuiltin)
    (hempty : ∀ slot, d.cycles slot = {}) (htargets : ∀ r ∈ targets set d.clients, r ∈ refs) :
    Confined refs d.clients d'.clients ∧
      (targets set d.clients = [] → begun = false ∧ d'.clients = d.clients) := by
  cases h.builtin hbuiltin with
  | plain isPlain =>
      exact ⟨isPlain.confined_run data htargets, fun hnil => ⟨rfl, isPlain.run_of_nil data hnil⟩⟩
  | refused => exact ⟨.refl refs d.clients, fun _ => ⟨rfl, rfl⟩⟩
  | opened run =>
      have hran := Cycle.ran run
      exact ⟨hran.confined (hempty _) htargets, hran.inert (hempty _)⟩
  | fruitless run =>
      have hran := Cycle.ran run
      exact ⟨hran.confined (hempty _) htargets, hran.inert (hempty _)⟩

variable {S : Type} [Seat S]

/-- How far a run inside of a conditional has come that has begun with these clients and has
selected those with a reference in `refs`. -/
structure Confines (refs : List ClientRef) (store : ClientStore) (begun : Bool)
    (stage : Stage S) : Prop where
  confined : Confined refs store stage.desktop.clients
  idle : begun = false → stage.session = none
  tidy : Tidy (fun _ => True) stage.session stage.desktop
  inert : refs = [] → begun = false ∧ stage.desktop.clients = store

/-- A set of which all clients have a reference in `refs`. -/
def Fits (refs : List ClientRef) (store : ClientStore) (incoming : Option ClientSet) : Prop :=
  ∃ set, incoming = some set ∧ ∀ r ∈ targets (some set) store, r ∈ refs

theorem ClientStore.Confined.fits_iff {refs : List ClientRef} {store store' : ClientStore}
    (h : Confined refs store store') (incoming : Option ClientSet) :
    Fits refs store' incoming ↔ Fits refs store incoming := by
  obtain ⟨f, rfl, -⟩ := h
  simp only [Fits, targets_mapLive]

theorem Fits.conditionalSet {refs : List ClientRef} {store : ClientStore}
    {incoming : Option ClientSet} (h : Fits refs store incoming) (test : Option TestChain)
    (accepted : ActionList) (data : ActionData) :
    Fits refs store (some (conditionalSet test accepted store incoming data)) := by
  obtain ⟨set, rfl, hset⟩ := h
  refine ⟨_, rfl, fun r hr => hset r ?_⟩
  obtain ⟨c, hc, rfl⟩ := List.mem_map.1 hr
  exact List.mem_map_of_mem (conditionalSet_within test accepted store set data c hc)

theorem confines_run (refs : List ClientRef) (store : ClientStore) (data : ActionData) :
    RunInvariant Action.IsBuiltin (Fits refs store) data
      fun begun (stage : Stage S) => Confines refs store begun stage where
  tested stage isMatch h := ⟨h.confined, h.idle, h.tidy, h.inert⟩
  selected stage incoming test accepted h hfits :=
    (h.confined.fits_iff _).1
      (((h.confined.fits_iff incoming).2 hfits).conditionalSet test accepted data)
  turned stage incoming action h hfits hbuiltin := by
    have hdeed := stage.runAction_deed action incoming data
    have hidle : stage.session = none := h.idle rfl
    have htidy := h.tidy
    obtain ⟨set, rfl, hset⟩ := (h.confined.fits_iff incoming).2 hfits
    rw [hidle] at hdeed htidy
    obtain ⟨hconfined, hnil⟩ := hdeed.confined hbuiltin htidy hset
    refine ⟨h.confined.trans hconfined, ?_, htidy.deed hbuiltin.isTame hdeed, ?_⟩
    · intro hbegun
      rw [hbegun] at hdeed
      exact hdeed.not_begun
    · intro hrefs
      have htargets : targets (some set) stage.desktop.clients = [] := by
        subst hrefs
        exact List.eq_nil_iff_forall_not_mem.2 fun r hr => List.not_mem_nil (hset r hr)
      exact ⟨(hnil htargets).1, (hnil htargets).2.trans (h.inert hrefs).2⟩

/-- What holds after a conditional that runs while there is no session and no cycle is going on. -/
theorem confines_conditional {stage : Stage S} (hidle : stage.session = none)
    (hempty : ∀ slot, stage.desktop.cycles slot = {}) (test : Option TestChain)
    {accepted otherwise : ActionList} (haccepted : entriesOnly Action.IsBuiltin accepted)
    (hotherwise : entriesOnly Action.IsBuiltin otherwise) (incoming : Option ClientSet)
    (data : ActionData) :
    let store := stage.desktop.clients
    let set := conditionalSet test accepted store incoming data
    let result := runEntry stage incoming data (.conditional test accepted otherwise)
    Confines ((set.clients store).map (·.ref)) store result.1 result.2 := by
  intro store set result
  have htidy : Tidy (fun _ => True) stage.session stage.desktop := by
    rw [hidle]
    exact hempty
  have hstart : Confines ((set.clients store).map (·.ref)) store false stage :=
    ⟨.refl _ store, fun _ => hidle, htidy, fun _ => ⟨rfl, rfl⟩⟩
  have hfits : Fits ((set.clients store).map (·.ref)) store (some set) :=
    ⟨set, rfl, fun _ hr => hr⟩
  have hrun := confines_run (S := S) ((set.clients store).map (·.ref)) store data
  refine runEntry_conditional
    (P := fun r => Confines ((set.clients store).map (·.ref)) store r.1 r.2) stage incoming data
    test accepted otherwise fun isMatch => ?_
  cases isMatch with
  | true => exact hrun.runEntries (hrun.tested _ true hstart) hfits accepted haccepted
  | false => exact hrun.runEntries (hrun.tested _ false hstart) hfits otherwise hotherwise

/-- The clients after the conditional, one by one, beside the same clients before it. -/
theorem ClientStore.Confined.beside {store after : ClientStore} {set : ClientSet}
    (h : Confined ((set.clients store).map (·.ref)) store after) :
    List.Forall₂ (fun c c' => c'.ref = c.ref ∧ c'.managed = c.managed ∧
      Kept (c ∈ set.clients store) c.state c'.state) store.live after.live := by
  obtain ⟨f, rfl, hkept⟩ := h
  rw [ClientStore.live_mapLive, List.forall₂_map_right_iff, List.forall₂_same]
  intro c hc
  have hmem : c.ref ∈ (set.clients store).map (·.ref) → c ∈ set.clients store := by
    intro href
    obtain ⟨d, hd, heq⟩ := List.mem_map.1 href
    exact ClientStore.eq_of_ref_eq (ClientSet.mem_live_of_mem_clients hd) hc heq ▸ hd
  exact ⟨rfl, rfl, (hkept c).mono hmem⟩

/-- The keyboard is grabbed after an entry exactly if there is a session, if it was so before. -/
theorem grabbed_runEntry {stage : Stage HeadlessSeat}
    (h : stage.isRunning = stage.seat.grabbed) (incoming : Option ClientSet) (data : ActionData)
    (entry : Entry) :
    (runEntry stage incoming data entry).2.isRunning =
      (runEntry stage incoming data entry).2.seat.grabbed := by
  obtain ⟨new, hw, hpassage⟩ := runEntry_passage stage incoming data entry
  have hgrabbed := grabbed_replay hw.world
  rw [show stage.world.1.grabbed = stage.session.isSome from h.symm, hpassage.keyboard] at hgrabbed
  exact hgrabbed.symm

namespace Engine

/-- A conditional of builtin actions that runs while there is no session and the keyboard is free
confines its effects to the clients that it selects, and if it selects nobody, then it has no
effect on clients, session and keyboard. -/
theorem conditional_confined (vocabulary : Vocabulary) (seat : HeadlessSeat)
    (clients : ClientStore) (cyclic : Nat → Prop)
    (happenings : List (Happening (HostChange HeadlessSeat)))
    (htame : ∀ happening ∈ happenings, happening.Only (Action.IsTame cyclic))
    (test : Option TestChain) (accepted otherwise : ActionList)
    (haccepted : entriesOnly Action.IsBuiltin accepted)
    (hotherwise : entriesOnly Action.IsBuiltin otherwise) (incoming : Option ClientSet)
    (data : ActionData) :
    let engine := Engine.after HostChange.apply ⟨vocabulary, { seat, desktop := { clients } }⟩
      happenings
    let store := engine.stage.desktop.clients
    let set := conditionalSet test accepted store incoming data
    let result := runEntry engine.stage incoming data (.conditional test accepted otherwise)
    engine.stage.isRunning = false → engine.stage.seat.grabbed = false →
    List.Forall₂ (fun c c' => c'.ref = c.ref ∧ c'.managed = c.managed ∧
        c'.state.title = c.state.title ∧ c'.state.className = c.state.className ∧
        c'.state.desktop = c.state.desktop ∧ c'.state.urgent = c.state.urgent ∧
        (c ∉ set.clients store →
          c'.state.iconic = c.state.iconic ∧ c'.state.closed = c.state.closed))
      store.live result.2.desktop.clients.live ∧
    (set.isTrue store = false ∨ set.clients store = [] →
      result.2.desktop.clients = store ∧ result.1 = false ∧ result.2.isRunning = false ∧
        result.2.seat.grabbed = false) := by
  intro engine store set result hidle hfree
  have hnone : engine.stage.session = none := by simpa [Stage.isRunning] using hidle
  have hfresh : Tidy cyclic none { clients } := fun _ => rfl
  have htidy : Tidy cyclic engine.stage.session engine.stage.desktop :=
    tidy_after ⟨vocabulary, { seat, desktop := { clients } }⟩ hfresh happenings htame
  rw [hnone] at htidy
  have hresult : Confines ((set.clients store).map (·.ref)) store result.1 result.2 :=
    confines_conditional hnone htidy test haccepted hotherwise incoming data
  constructor
  · refine hresult.confined.beside.imp ?_
    rintro c c' ⟨href, hmanaged, hkept⟩
    exact ⟨href, hmanaged, hkept.title, hkept.className, hkept.desktop, hkept.urgent,
      fun hnot => ⟨hkept.iconic hnot, hkept.closed hnot⟩⟩
  · intro hnobody
    have hnil : set.clients store = [] := hnobody.elim ClientSet.clients_eq_nil id
    obtain ⟨hbegun, hstore⟩ := hresult.inert (by rw [hnil]; rfl)
    have hsession : result.2.session = none := hresult.idle hbegun
    have hrunning : result.2.isRunning = false := by rw [Stage.isRunning, hsession]; rfl
    refine ⟨hstore, hbegun, hrunning, ?_⟩
    rw [← hrunning]
    exact (grabbed_runEntry (hidle.trans hfree.symm) incoming data _).symm

/-- After an aborted session, nobody has been asked to close, and the branch for that is inert. -/
theorem conditional_confined_nobody :
    let happenings : List (Happening (HostChange HeadlessSeat)) :=
      [.call (.run [.action (.nextWindow 4)] { state := 8 }), .host (.manage 3 {}), .call .cancel]
    let clients : ClientStore := .ofSpecs [⟨1, { focused := true }⟩, ⟨2, {}⟩]
    let engine := Engine.after HostChange.apply ⟨.empty, { seat := {}, desktop := { clients } }⟩
      happenings
    let closed : Filter := ⟨⟨4, "closed"⟩, false, none, .matching (·.state.closed)⟩
    let otherwise : ActionList := [.action (.iconify 2),
      .conditional none [.action (.activate 1)] [.action (.nextWindow 4)], .action (.nextWindow 4)]
    let result := runEntry engine.stage none (({ state := 8 } : Trigger).data engine.stage)
      (.conditional (some [⟨some closed, .and⟩]) [] otherwise)
    (∀ happening ∈ happenings, happening.Only (Action.IsTame (· = 4))) ∧
    entriesOnly Action.IsBuiltin otherwise ∧
    engine.stage.isRunning = false ∧ engine.stage.seat.grabbed = false ∧
    result.2.desktop.clients = engine.stage.desktop.clients ∧ result.1 = false ∧
    result.2.isRunning = false ∧ result.2.seat.grabbed = false := by
  intro happenings clients engine closed otherwise result
  have hcycle : (Action.nextWindow 4).IsTame (· = 4) :=
    ⟨fun _ _ => ⟨.forward, rfl⟩, fun h => absurd rfl (h rfl)⟩
  have htame : ∀ happening ∈ happenings, happening.Only (Action.IsTame (· = 4)) := by
    simp [happenings, Happening.Only, entriesOnly, Entry.Only, hcycle]
  have hotherwise : entriesOnly Action.IsBuiltin otherwise := by
    simp [otherwise, entriesOnly, Entry.Only, Action.isBuiltin_iconify, Action.isBuiltin_activate,
      Action.isBuiltin_nextWindow]
  have hidle : engine.stage.isRunning = false := by decide
  have hfree : engine.stage.seat.grabbed = false := by decide
  have hconfined := conditional_confined .empty {} clients (· = 4) happenings htame
    (some [⟨some closed, .and⟩]) [] otherwise trivial hotherwise none
    (({ state := 8 } : Trigger).data engine.stage) hidle hfree
  have hnobody : (conditionalSet (some [⟨some closed, .and⟩]) [] engine.stage.desktop.clients none
      (({ state := 8 } : Trigger).data engine.stage)).isTrue engine.stage.desktop.clients =
      false := by decide
  refine ⟨htame, hotherwise, hidle, hfree, ?_⟩
  -- Nothing has to be evaluated any more.
  with_reducible exact hconfined.2 (Or.inl hnobody)

end Engine

end WindowActions
