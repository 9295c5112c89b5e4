import WindowActions.Proofs.Builtin.Actions

/-!
# What becomes of the focus

At most one managed client should have the focus. Three of the four routines that give it to a
client see to that: `focus` and `revert` decide for every managed client whether it has the focus,
and turning clients into icons only takes it away. A preview, however, is among the clients that the
cycle knows, those that were managed when it began. A client that came later and has got the focus
since keeps it, and then two clients have it. `ClientStore.FocusDivided` is this state.
-/

namespace WindowActions

namespace ClientStore

variable {store store' : ClientStore} {c d : Client} {f : Client → ClientState}
  {known : List ClientRef}

/-- At most one managed client has the focus. -/
def FocusExclusive (store : ClientStore) : Prop :=
  ∀ c ∈ store.managed, ∀ d ∈ store.managed,
    c.state.focused = true → d.state.focused = true → c = d

instance (store : ClientStore) : Decidable store.FocusExclusive :=
  inferInstanceAs (Decidable (∀ c ∈ store.managed, ∀ d ∈ store.managed, _))

/-- Of the managed clients, one that is known has the focus and so has one that is not known. -/
def FocusDivided (known : List ClientRef) (store : ClientStore) : Prop :=
  ∃ c ∈ store.managed, ∃ d ∈ store.managed,
    c.state.focused = true ∧ d.state.focused = true ∧ c.ref ∈ known ∧ d.ref ∉ known

theorem FocusDivided.not_exclusive (h : store.FocusDivided known) : ¬ store.FocusExclusive := by
  obtain ⟨c, hc, d, hd, hcfocus, hdfocus, hknown, hnot⟩ := h
  intro hexclusive
  rw [hexclusive c hc d hd hcfocus hdfocus] at hknown
  exact hnot hknown

theorem exclusive_mapLive
    (h : ∀ c ∈ store.managed, ∀ d ∈ store.managed,
      (f c).focused = true → (f d).focused = true → c.ref = d.ref) :
    (store.mapLive f).FocusExclusive := by
  intro c hc d hd hcfocus hdfocus
  rw [managed_mapLive, List.mem_map] at hc hd
  obtain ⟨c, hc, rfl⟩ := hc
  obtain ⟨d, hd, rfl⟩ := hd
  rw [eq_of_managed_ref_eq hc hd (h c hc d hd hcfocus hdfocus)]

namespace FocusExclusive

theorem mapLive (h : store.FocusExclusive)
    (hf : ∀ c, (f c).focused = true → c.state.focused = true) :
    (store.mapLive f).FocusExclusive :=
  exclusive_mapLive fun c hc d hd hcfocus hdfocus =>
    congrArg Client.ref (h c hc d hd (hf c hcfocus) (hf d hdfocus))

/-- Clients that come without the focus and clients that go do no harm. -/
theorem of_subset (h : store.FocusExclusive)
    (hsub : ∀ c ∈ store'.managed, c.state.focused = true → c ∈ store.managed) :
    store'.FocusExclusive :=
  fun c hc d hd hcfocus hdfocus =>
    h c (hsub c hc hcfocus) d (hsub d hd hdfocus) hcfocus hdfocus

/-- A preview divides the focus or leaves it exclusive. -/
theorem preview (h : store.FocusExclusive) (known : List ClientRef) (r : ClientRef) :
    (store.preview known r).FocusExclusive ∨ (store.preview known r).FocusDivided known := by
  have hknown : ∀ c : Client, c.ref ∈ known → (previewed known r c).focused = true →
      c.ref = r := by
    intro c hc hfocus
    rw [previewed, if_pos hc] at hfocus
    exact beq_iff_eq.1 hfocus
  have hother : ∀ c : Client, c.ref ∉ known → (previewed known r c).focused = true →
      c.state.focused = true := by
    intro c hc hfocus
    rwa [previewed, if_neg hc] at hfocus
  have hmem : ∀ c ∈ store.managed, restated (previewed known r) c ∈
      (store.preview known r).managed := by
    intro c hc
    rw [preview_eq, managed_mapLive]
    exact List.mem_map_of_mem hc
  by_cases hdivided : (store.preview known r).FocusDivided known
  · exact Or.inr hdivided
  · refine Or.inl (exclusive_mapLive fun c hc d hd hcfocus hdfocus => ?_)
    by_cases hcknown : c.ref ∈ known
    · by_cases hdknown : d.ref ∈ known
      · rw [hknown c hcknown hcfocus, hknown d hdknown hdfocus]
      · exact absurd ⟨_, hmem c hc, _, hmem d hd, hcfocus, hdfocus, hcknown, hdknown⟩ hdivided
    · by_cases hdknown : d.ref ∈ known
      · exact absurd ⟨_, hmem d hd, _, hmem c hc, hdfocus, hcfocus, hdknown, hcknown⟩ hdivided
      · rw [h c hc d hd (hother c hcknown hcfocus) (hother d hdknown hdfocus)]

end FocusExclusive

theorem exclusive_focus (store : ClientStore) (r : ClientRef) :
    (store.focus r).FocusExclusive := by
  have hfocus : ∀ c ∈ store.managed, (refocused r c).focused = true → c.ref = r := by
    intro c hc hfocus
    simp only [refocused, (List.mem_filter.1 hc).2, if_true] at hfocus
    exact beq_iff_eq.1 hfocus
  rw [focus_eq]
  refine exclusive_mapLive fun c hc d hd hcfocus hdfocus => ?_
  rw [hfocus c hc hcfocus, hfocus d hd hdfocus]

end ClientStore

/-- At most one client is said to be focused. -/
def OneFocused (before : List (ClientRef × Bool)) : Prop :=
  ∀ r s, (r, true) ∈ before → (s, true) ∈ before → r = s

/-- A client to which the focus is brought back is one that had it. -/
theorem mem_of_lookup_focus {before : List (ClientRef × Bool)} {r : ClientRef}
    (h : (before.lookup r).getD false = true) : (r, true) ∈ before := by
  cases hlookup : before.lookup r with
  | none => simp [hlookup] at h
  | some focused =>
      obtain ⟨earlier, later, heq, -⟩ := List.lookup_eq_some_iff.1 hlookup
      rw [hlookup, Option.getD_some] at h
      rw [heq, h]
      simp

theorem CycleState.oneFocused_collect {store : ClientStore} (h : store.FocusExclusive)
    (set : ClientSet) : OneFocused (CycleState.collect store set).focusBefore := by
  intro r s hr hs
  obtain ⟨c, hc, hcr⟩ := List.mem_map.1 hr
  obtain ⟨d, hd, hds⟩ := List.mem_map.1 hs
  rw [Prod.mk.injEq] at hcr hds
  rw [← hcr.1, ← hds.1, h c hc d hd hcr.2 hds.2]

namespace Cycle

variable {slot : Nat} {direction : Direction} {set : Option ClientSet} {data : ActionData}
  {d d' : Desktop} {begun : Bool}

theorem exclusive_commit (slot : Nat) (h : d.clients.FocusExclusive) :
    (commit slot d).clients.FocusExclusive := by
  rcases clients_commit slot d with heq | ⟨r, -, heq⟩
  · rwa [heq]
  · rw [heq]
    exact ClientStore.exclusive_focus d.clients r

/-- What is brought back by a revert is one focus at most. -/
theorem exclusive_revert (h : OneFocused (d.cycles slot).focusBefore) :
    (revert slot d).clients.FocusExclusive := by
  refine ClientStore.exclusive_mapLive fun c hc e he hcfocus hefocus => ?_
  rw [if_pos (List.mem_filter.1 hc).2] at hcfocus
  rw [if_pos (List.mem_filter.1 he).2] at hefocus
  exact h _ _ (mem_of_lookup_focus hcfocus) (mem_of_lookup_focus hefocus)

theorem Ready.oneFocused (h : Ready slot set d d') (hfocus : d.clients.FocusExclusive)
    (hbefore : ∀ n, OneFocused (d.cycles n).focusBefore) (n : Nat) :
    OneFocused (d'.cycles n).focusBefore := by
  cases h with
  | going => exact hbefore n
  | begun fresh =>
      by_cases hn : n = slot
      · rw [hn, Desktop.setCycle_same]
        exact CycleState.oneFocused_collect hfocus _
      · rw [d.setCycle_other hn]
        exact hbefore n

theorem focusBefore_move (slot : Nat) (direction : Direction) (d : Desktop) (n : Nat) :
    ((move slot direction d).cycles n).focusBefore = (d.cycles n).focusBefore := by
  rw [cycles_move]
  by_cases hn : n = slot
  · rw [hn, Desktop.setCycle_same]
    rfl
  · rw [d.setCycle_other hn]

theorem Ran.oneFocused (h : Ran slot direction set data d begun d')
    (hfocus : d.clients.FocusExclusive) (hbefore : ∀ n, OneFocused (d.cycles n).focusBefore)
    (n : Nat) : OneFocused (d'.cycles n).focusBefore := by
  cases h with
  | nobody hready => exact hready.oneFocused hfocus hbefore n
  | committed hready =>
      rw [cycles_commit, focusBefore_move]
      exact hready.oneFocused hfocus hbefore n
  | previewed hready =>
      rw [focusBefore_move]
      exact hready.oneFocused hfocus hbefore n

/-- A run of a cycle leaves the focus exclusive, or it divides it and the session goes on. -/
theorem Ran.exclusive_or_divided (h : Ran slot direction set data d begun d')
    (hfocus : d.clients.FocusExclusive) :
    d'.clients.FocusExclusive ∨
      (begun = true ∧ d'.clients.FocusDivided (d'.cycles slot).known) := by
  cases h with
  | nobody hready => exact Or.inl (hready.clients_eq ▸ hfocus)
  | @committed ready hready =>
      rcases clients_move slot direction ready with ⟨-, hcommit⟩ | ⟨r, -, -, hcommit⟩
      · rw [hcommit, hready.clients_eq]
        exact Or.inl hfocus
      · rw [hcommit]
        exact Or.inl (ClientStore.exclusive_focus _ r)
  | @previewed ready hready =>
      rw [CycleState.known, focusBefore_move]
      rcases clients_move slot direction ready with ⟨hmove, -⟩ | ⟨r, -, hmove, -⟩
      · rw [hmove, hready.clients_eq]
        exact Or.inl hfocus
      · rw [hmove, hready.clients_eq]
        exact (hfocus.preview (ready.cycles slot).known r).imp_right fun h => ⟨rfl, h⟩

end Cycle

theorem Behavior.IsPlain.exclusive_run {behavior : Behavior} (h : behavior.IsPlain)
    (set : Option ClientSet) (data : ActionData) {d : Desktop} (hfocus : d.clients.FocusExclusive) :
    (behavior.run set data d).2.clients.FocusExclusive := by
  cases h with
  | close =>
      refine hfocus.mapLive fun c hc => ?_
      by_cases hmem : c.ref ∈ targets set d.clients
      · rwa [if_pos hmem] at hc
      · rwa [if_neg hmem] at hc
  | iconify =>
      refine hfocus.mapLive fun c hc => ?_
      by_cases hmem : c.ref ∈ targets set d.clients
      · rw [if_pos hmem] at hc
        cases hc
      · rwa [if_neg hmem] at hc
  | activate =>
      simp only [activateBehavior, Behavior.simple]
      split
      · exact ClientStore.exclusive_focus d.clients _
      · exact hfocus
  | execute command =>
      simp only [executeBehavior, Behavior.simple]
      split <;> exact hfocus

namespace ClientStore

theorem managed_refs_preview (store : ClientStore) (others : List ClientRef) (r : ClientRef) :
    (store.preview others r).managed.map (·.ref) = store.managed.map (·.ref) :=
  managed_refs_mapLive store _

theorem managed_refs_focus (store : ClientStore) (r : ClientRef) :
    (store.focus r).managed.map (·.ref) = store.managed.map (·.ref) := by
  rw [focus_eq, managed_refs_mapLive]

end ClientStore

theorem Behavior.IsPlain.managed_refs_run {behavior : Behavior} (h : behavior.IsPlain)
    (set : Option ClientSet) (data : ActionData) (d : Desktop) :
    (behavior.run set data d).2.clients.managed.map (·.ref) = d.clients.managed.map (·.ref) := by
  cases h with
  | close | iconify => exact ClientStore.managed_refs_mapLive d.clients _
  | activate =>
      simp only [activateBehavior, Behavior.simple]
      split
      · exact d.clients.managed_refs_focus _
      · rfl
  | execute command =>
      simp only [executeBehavior, Behavior.simple]
      split <;> rfl

/-- A cycle whose session goes on knows what it knew before, or it has begun and knows all managed
clients. -/
theorem Cycle.Ran.known {slot : Nat} {direction : Direction} {set : Option ClientSet}
    {data : ActionData} {d d' : Desktop} (h : Ran slot direction set data d true d') :
    d'.clients.managed.map (·.ref) = d.clients.managed.map (·.ref) ∧
      ((d'.cycles slot).known = (d.cycles slot).known ∧ (d.cycles slot).candidates ≠ [] ∨
        (d'.cycles slot).known = d.clients.managed.map (·.ref)) := by
  cases h with
  | @previewed ready hready hsome =>
      constructor
      · rw [← hready.clients_eq]
        rcases clients_move slot direction ready with ⟨heq, -⟩ | ⟨r, -, heq, -⟩
        · rw [heq]
        · rw [heq, ClientStore.managed_refs_preview]
      · rw [CycleState.known, focusBefore_move]
        cases hready with
        | going => exact Or.inl ⟨rfl, hsome⟩
        | begun fresh =>
            rw [Desktop.setCycle_same]
            exact Or.inr (by simp [CycleState.collect, Function.comp_def])

end WindowActions
