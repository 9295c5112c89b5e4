import WindowActions.Proofs.Builtin.Actions
import WindowActions.Proofs.Session.Lockstep

/-!
# The builtin actions on twin desktops

Desktops are twins if their clients and their cycles are, and if they have given the same warnings
and started the same commands since a certain time. On twin desktops the builtin actions do the same
and leave them twins: the only things they know of clients are references and states.
-/

namespace WindowActions

/-- The two lists have grown by the same since they were `start` and `start'`. -/
def Grown {α : Type} (start start' now now' : List α) : Prop :=
  ∃ more, now = start ++ more ∧ now' = start' ++ more

namespace Grown

variable {α : Type} {start start' now now' later later' : List α}

theorem refl (start start' : List α) : Grown start start' start start' :=
  ⟨[], (List.append_nil _).symm, (List.append_nil _).symm⟩

theorem append (h : Grown start start' now now') (more : List α) :
    Grown start start' (now ++ more) (now' ++ more) := by
  obtain ⟨earlier, rfl, rfl⟩ := h
  exact ⟨earlier ++ more, List.append_assoc _ _ _, List.append_assoc _ _ _⟩

/-- What has been added in the meantime is the same. -/
theorem drop_eq (h : Grown start start' now now') (h' : Grown start start' later later') :
    later.drop now.length = later'.drop now'.length := by
  obtain ⟨more, rfl, rfl⟩ := h
  obtain ⟨much, rfl, rfl⟩ := h'
  rw [List.length_append, List.length_append, List.drop_length_add_append,
    List.drop_length_add_append]

end Grown

variable {p : Pairing}

/-- The states of two cycles through paired candidates. -/
structure CycleState.Twins (p : Pairing) (state state' : CycleState) : Prop where
  candidates : List.Forall₂ p.Pairs state.candidates state'.candidates
  focusBefore : List.Forall₂ (fun e e' => p.Pairs e.1 e'.1 ∧ e.2 = e'.2) state.focusBefore
    state'.focusBefore
  cursor : state.cursor = state'.cursor

namespace CycleState.Twins

variable {state state' : CycleState}

theorem empty (p : Pairing) : CycleState.Twins p {} {} := ⟨.nil, .nil, rfl⟩

theorem known (h : state.Twins p state') : List.Forall₂ p.Pairs state.known state'.known :=
  forall₂_map h.focusBefore fun _ _ he => he.1

theorem target? (h : state.Twins p state') : Option.Rel p.Pairs state.target? state'.target? := by
  rw [CycleState.target?, CycleState.target?, h.cursor]
  cases state'.cursor with
  | none => exact .none
  | some n => exact rel_getElem? h.candidates n

theorem moved (h : state.Twins p state') (direction : Direction) :
    (state.moved direction).Twins p (state'.moved direction) := by
  refine ⟨h.candidates, h.focusBefore, ?_⟩
  rw [CycleState.moved, CycleState.moved, h.cursor, h.candidates.length_eq]

/-- Paired clients had the focus before, or neither of them had. -/
theorem lookup (h : state.Twins p state') {r r' : ClientRef} (hr : p.Pairs r r') :
    state.focusBefore.lookup r = state'.focusBefore.lookup r' := by
  have hlists : ∀ {before before' : List (ClientRef × Bool)},
      List.Forall₂ (fun e e' => p.Pairs e.1 e'.1 ∧ e.2 = e'.2) before before' →
      before.lookup r = before'.lookup r' := by
    intro before before' hbefore
    induction hbefore with
    | nil => rfl
    | @cons e e' _ _ he _ ih =>
        obtain ⟨hpair, hfocused⟩ := he
        rw [List.lookup_cons, List.lookup_cons, Pairing.beq_eq hr hpair, hfocused, ih]
  exact hlists h.focusBefore

end CycleState.Twins

/-- Two desktops that look the same through paired references and have told the same since they were
`start` and `start'`. -/
structure Desktop.Twins (p : Pairing) (start start' d d' : Desktop) : Prop where
  clients : d.clients.Twins p Eq d'.clients
  cycles : ∀ slot, (d.cycles slot).Twins p (d'.cycles slot)
  commands : Grown start.commands start'.commands d.commands d'.commands
  warnings : Grown start.warnings start'.warnings d.warnings d'.warnings

section

variable {set set' : Option ClientSet} {store store' : ClientStore}

theorem targets_twins (h : store.Twins p Eq store')
    (hset : Option.Rel (ClientSet.Twins p) set set') :
    List.Forall₂ p.Pairs (targets set store) (targets set' store') := by
  cases hset with
  | none => exact .nil
  | some hset => exact forall₂_map (hset.clients h) fun _ _ hc => hc.ref

namespace ClientStore.Twins

variable {r r' : ClientRef} {rs rs' : List ClientRef}

theorem focus (h : store.Twins p Eq store') (hr : p.Pairs r r') :
    (store.focus r).Twins p Eq (store'.focus r') := by
  rw [focus_eq, focus_eq]
  refine h.mapLive fun c c' hc => ?_
  have hsame : c.ref = r ↔ c'.ref = r' := Relator.rel_eq p.biUnique hc.ref hr
  rw [refocused, refocused, hc.state, hc.managed, Pairing.beq_eq hc.ref hr]
  simp only [hsame]

theorem preview (h : store.Twins p Eq store') (hrs : List.Forall₂ p.Pairs rs rs')
    (hr : p.Pairs r r') : (store.preview rs r).Twins p Eq (store'.preview rs' r') := by
  rw [preview_eq, preview_eq]
  refine h.mapLive fun c c' hc => ?_
  rw [previewed, previewed, hc.state, Pairing.beq_eq hc.ref hr]
  simp only [Pairing.mem_iff hc.ref hrs]

end ClientStore.Twins

theorem CycleState.twins_collect (h : store.Twins p Eq store') {a a' : ClientSet}
    (ha : a.Twins p a') : (collect store a).Twins p (collect store' a') := by
  have hopen := forall₂_filter (ha.clients h) (p := fun c => !c.state.closed)
    (q := fun c => !c.state.closed) fun c c' hc => by rw [hc.state]
  refine ⟨forall₂_map hopen fun _ _ hc => hc.ref, ?_, ?_⟩
  · exact forall₂_map h.managed fun c c' hc => ⟨hc.ref, by rw [hc.state]⟩
  · have hfocused := map_eq_map_of_forall₂ hopen (f := (·.state.focused))
      (g := (·.state.focused)) fun c c' hc => by rw [hc.state]
    have hfirst := congrArg (List.findIdx? id) hfocused
    rwa [List.findIdx?_map, List.findIdx?_map] at hfirst

end

namespace Desktop.Twins

variable {start start' d d' : Desktop}

theorem likens (p : Pairing) (start start' : Desktop) :
    Desktop.Likens p Eq (Desktop.Twins p start start') where
  clients h := h.clients
  warn warning h := ⟨h.clients, h.cycles, h.commands, h.warnings.append [warning]⟩

theorem withClients (h : Desktop.Twins p start start' d d') {f f' : ClientStore → ClientStore}
    (hf : (f d.clients).Twins p Eq (f' d'.clients)) :
    Desktop.Twins p start start' (d.withClients f) (d'.withClients f') :=
  ⟨hf, h.cycles, h.commands, h.warnings⟩

theorem setCycle (h : Desktop.Twins p start start' d d') (slot : Nat) {state state' : CycleState}
    (hstate : state.Twins p state') :
    Desktop.Twins p start start' (d.setCycle slot state) (d'.setCycle slot state') := by
  refine ⟨h.clients, fun n => ?_, h.commands, h.warnings⟩
  by_cases hn : n = slot
  · rw [hn, Desktop.setCycle_same, Desktop.setCycle_same]
    exact hstate
  · rw [d.setCycle_other hn, d'.setCycle_other hn]
    exact h.cycles n

theorem changeTargets (h : Desktop.Twins p start start' d d') {set set' : Option ClientSet}
    (hset : Option.Rel (ClientSet.Twins p) set set') (f : ClientState → ClientState) :
    Desktop.Twins p start start' (d.changeTargets set f) (d'.changeTargets set' f) := by
  simp only [Desktop.changeTargets]
  refine h.withClients (h.clients.mapLive fun c c' hc => ?_)
  simp only [Pairing.mem_iff hc.ref (targets_twins h.clients hset), hc.state]

end Desktop.Twins

theorem Behavior.IsPlain.lockstep {behavior : Behavior} (hplain : behavior.IsPlain)
    (start start' : Desktop) : behavior.Lockstep p (Desktop.Twins p start start') where
  run {set set' data data' d d'} hset hdata h := by
    cases hplain with
    | close =>
        refine ⟨rfl, ?_⟩
        simp only [closeBehavior, Behavior.simple]
        exact h.changeTargets hset _
    | iconify =>
        refine ⟨rfl, ?_⟩
        simp only [iconifyBehavior, Behavior.simple]
        exact h.changeTargets hset _
    | activate =>
        have htargets := targets_twins h.clients hset
        refine ⟨rfl, ?_⟩
        simp only [activateBehavior, Behavior.simple]
        generalize targets set d.clients = rs, targets set' d'.clients = rs' at htargets ⊢
        cases htargets with
        | nil => exact h
        | cons hr _ => exact h.withClients (h.clients.focus hr)
    | execute command =>
        refine ⟨rfl, ?_⟩
        simp only [executeBehavior, Behavior.simple]
        split
        · exact (Desktop.Twins.likens p start start').warn _ h
        · exact ⟨h.clients, h.cycles, h.commands.append [command], h.warnings⟩
  pre _ h := by cases hplain <;> exact ⟨rfl, h⟩
  input _ _ _ _ h := by cases hplain <;> exact ⟨rfl, h⟩
  cancel h := by cases hplain <;> exact h
  post h := by cases hplain <;> exact h

namespace Cycle

variable {slot : Nat} {start start' d d' : Desktop}

theorem revert_twins (h : Desktop.Twins p start start' d d') :
    Desktop.Twins p start start' (revert slot d) (revert slot d') := by
  rw [revert, revert]
  refine h.withClients (h.clients.mapLive fun c c' hc => ?_)
  simp only [hc.managed, hc.state, (h.cycles slot).lookup hc.ref]

theorem commit_twins (h : Desktop.Twins p start start' d d') :
    Desktop.Twins p start start' (commit slot d) (commit slot d') := by
  have htarget := (h.cycles slot).target?
  rw [commit, commit]
  generalize (d.cycles slot).target? = target, (d'.cycles slot).target? = target' at htarget ⊢
  cases htarget with
  | none => exact h
  | some hr =>
      simp only [h.clients.isLive hr]
      split
      · exact h.withClients (h.clients.focus hr)
      · exact h

theorem move_twins (direction : Direction) (h : Desktop.Twins p start start' d d') :
    Desktop.Twins p start start' (move slot direction d) (move slot direction d') := by
  have hstate := (h.cycles slot).moved direction
  have htarget := hstate.target?
  have hset := h.setCycle slot hstate
  rw [move, move]
  generalize ((d.cycles slot).moved direction).target? = target,
    ((d'.cycles slot).moved direction).target? = target' at htarget ⊢
  cases htarget with
  | none => exact hset
  | some hr =>
      simp only [h.clients.isLive hr]
      split
      · exact hset.withClients (h.clients.preview (h.cycles slot).known hr)
      · exact hset

theorem advance_twins (direction : Direction) (modifiers : Modifiers)
    (h : Desktop.Twins p start start' d d') :
    Alongside (Desktop.Twins p start start') (advance slot direction modifiers d)
      (advance slot direction modifiers d') := by
  rw [advance_eq, advance_eq]
  split
  · exact ⟨rfl, commit_twins (move_twins direction h)⟩
  · exact ⟨rfl, move_twins direction h⟩

theorem run_twins (direction : Direction) {set set' : Option ClientSet} {data data' : ActionData}
    (hset : Option.Rel (ClientSet.Twins p) set set') (hdata : data.Twins p data')
    (h : Desktop.Twins p start start' d d') :
    Alongside (Desktop.Twins p start start') (run slot direction set data d)
      (run slot direction set' data' d') := by
  simp only [run, isEmpty_eq_of_forall₂ (h.cycles slot).candidates, hdata.state]
  split
  · cases hset with
    | none => exact ⟨rfl, h⟩
    | some ha =>
        have hstate := CycleState.twins_collect h.clients ha
        have hbegun := h.setCycle slot hstate
        simp only [isEmpty_eq_of_forall₂ hstate.candidates]
        split
        · exact ⟨rfl, hbegun⟩
        · exact advance_twins direction _ hbegun
  · exact advance_twins direction _ h

theorem input_twins (initial : Modifiers) (event : InputEvent)
    (h : Desktop.Twins p start start' d d') :
    Alongside (Desktop.Twins p start start') (input slot initial event d)
      (input slot initial event d') := by
  rw [Cycle.input, Cycle.input]
  cases event.kind with
  | keyPress =>
      simp only
      split
      · exact ⟨rfl, revert_twins h⟩
      · exact ⟨rfl, h⟩
  | keyRelease =>
      simp only
      split
      · exact ⟨rfl, commit_twins h⟩
      · exact ⟨rfl, h⟩
  | buttonPress | buttonRelease | motion => exact ⟨rfl, h⟩

theorem lockstep (slot : Nat) (direction : Direction) (start start' : Desktop) :
    (behavior slot direction).Lockstep p (Desktop.Twins p start start') where
  run hset hdata h := run_twins direction hset hdata h
  pre _ h := ⟨rfl, h⟩
  input initial event _ _ h := input_twins initial event h
  cancel h := revert_twins h
  post h := h.setCycle slot (.empty p)

end Cycle

theorem Action.IsBuiltin.lockstep {action : Action} (h : action.IsBuiltin)
    (start start' : Desktop) : action.behavior.Lockstep p (Desktop.Twins p start start') := by
  rcases h.cases with ⟨-, hplain⟩ | ⟨-, direction, hbehavior⟩
  · exact hplain.lockstep start start'
  · rw [hbehavior]
    exact Cycle.lockstep action.info.id direction start start'

end WindowActions
