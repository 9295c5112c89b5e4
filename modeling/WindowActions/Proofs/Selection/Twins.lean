import WindowActions.Engine.Run
import WindowActions.Proofs.Client.Twins
import WindowActions.Proofs.Membership.Entries
import WindowActions.Proofs.Selection.Chain

/-!
# Chains select twins from twins

Sets are twins if their references are paired, place by place. Every operation on sets, asked of
twin stores, takes twins to twins. So a chain selects twins from twin stores, provided that its
filters do not tell clients apart that are alike.
-/

namespace WindowActions

variable {p : Pairing} {alike : ClientState → ClientState → Prop} {store store' : ClientStore}

/-- Paired references, place by place. -/
abbrev Members.Twins (p : Pairing) (m m' : Members) : Prop :=
  List.Forall₂ p.Pairs m.entries m'.entries

namespace Members

variable {m m' : Members} {r r' e e' : ClientRef} {rs rs' : List ClientRef}

theorem pairs_replaced (hr : p.Pairs r r') (he : p.Pairs e e') :
    p.Pairs (replaced r e) (replaced r' e') := by
  rw [replaced, replaced, p.window_eq hr, p.window_eq he]
  split
  · exact hr
  · exact he

theorem Twins.insert (h : m.Twins p m') (hr : p.Pairs r r') :
    (m.insert r).Twins p (m'.insert r') := by
  have hwindows : m.entries.map (·.window) = m'.entries.map (·.window) :=
    map_eq_map_of_forall₂ h fun _ _ => p.window_eq
  have hmem : r.window ∈ m.entries.map (·.window) ↔ r'.window ∈ m'.entries.map (·.window) := by
    rw [hwindows, p.window_eq hr]
  by_cases hold : r.window ∈ m.entries.map (·.window)
  · rw [Members.insert, dif_pos hold, Members.insert, dif_pos (hmem.1 hold)]
    exact forall₂_map h fun _ _ => pairs_replaced hr
  · rw [Members.insert, dif_neg hold, Members.insert, dif_neg (mt hmem.2 hold)]
    exact List.rel_append h (.cons hr .nil)

theorem Twins.insertAll (h : m.Twins p m') (hrs : List.Forall₂ p.Pairs rs rs') :
    (m.insertAll rs).Twins p (m'.insertAll rs') := by
  induction hrs generalizing m m' with
  | nil => exact h
  | cons hr _ ih => exact ih (h.insert hr)

theorem Twins.filter (h : m.Twins p m') {q q' : ClientRef → Bool}
    (hq : ∀ r r', p.Pairs r r' → q r = q' r') : (m.filter q).Twins p (m'.filter q') :=
  forall₂_filter h hq

theorem Twins.find? (h : m.Twins p m') (window : UInt32) :
    Option.Rel p.Pairs (m.find? window) (m'.find? window) :=
  rel_find? h fun _ _ hr => by rw [p.window_eq hr]

end Members

/-- Two sets of paired references, or twice the set of all clients. -/
inductive ClientSet.Twins (p : Pairing) : ClientSet → ClientSet → Prop
  | all : Twins p .all .all
  | some {m m' : Members} (members : m.Twins p m') : Twins p (.some m) (.some m')

namespace ClientSet

variable {a a' b b' : ClientSet} {r r' : ClientRef}

theorem twins_empty (p : Pairing) : ClientSet.empty.Twins p .empty := .some .nil

theorem twins_single (hr : p.Pairs r r') : (single r).Twins p (single r') :=
  .some (Members.Twins.insert .nil hr)

theorem twins_same (a : ClientSet) : a.Twins .same a := by
  cases a with
  | all => exact .all
  | some m => exact .some (List.forall₂_same.2 fun _ _ => rfl)

theorem Twins.eq_of_same (h : a.Twins .same a') : a = a' := by
  cases h with
  | all => rfl
  | some members =>
      rw [Members.Twins, Pairing.same, List.forall₂_eq_eq_eq] at members
      rw [Members.eq_of_entries_eq members]

namespace Twins

variable (h : store.Twins p alike store')

include h

theorem duplicate (ha : a.Twins p a') :
    (a.duplicate store).Twins p (a'.duplicate store') := by
  cases ha with
  | all => exact .all
  | some members => exact .some (members.filter fun _ _ => h.isLive)

theorem contains (ha : a.Twins p a') (window : UInt32) :
    a.contains store window = a'.contains store' window := by
  cases ha with
  | all => rfl
  | some members => exact any_eq_of_rel (members.find? window) fun _ _ => h.isLive

theorem isTrue (ha : a.Twins p a') : a.isTrue store = a'.isTrue store' := by
  cases ha with
  | all => rfl
  | some members =>
      have hlive := (members.filter fun _ _ => h.isLive).length_eq
      simp only [ClientSet.isTrue, size, List.countP_eq_length_filter]
      exact congrArg (· != 0) hlive

theorem clients (ha : a.Twins p a') :
    List.Forall₂ (Client.Twins p alike) (a.clients store) (a'.clients store') := by
  cases ha with
  | all => exact h.managed
  | some members => exact List.rel_filterMap (R := p.Pairs) (fun _ _ => h.lookup) members

theorem union (ha : a.Twins p a') (hb : b.Twins p b') :
    (a.union store b).Twins p (a'.union store' b') := by
  cases hb with
  | all => cases ha <;> exact .all
  | some others =>
      cases ha with
      | all => exact .all
      | some members =>
          exact .some (members.insertAll (forall₂_filter others fun _ _ => h.isLive))

theorem intersection (ha : a.Twins p a') (hb : b.Twins p b') :
    (a.intersection store b).Twins p (a'.intersection store' b') := by
  cases ha with
  | all => exact hb
  | some members =>
      cases hb with
      | all => exact .some members
      | some others =>
          refine .some (members.filter fun r r' hr => ?_)
          rw [h.isLive hr, p.window_eq hr, contains h (.some others)]

variable {q q' : Client → Bool} (hq : ∀ c c', c.Twins p alike c' → q c = q' c')

include hq

theorem reduce (ha : a.Twins p a') :
    ((a.reduce store q).getD .empty).Twins p ((a'.reduce store' q').getD .empty) := by
  have hgetD : ∀ {m m' : Members}, m.Twins p m' →
      ((if m.entries.isEmpty then none else Option.some (ClientSet.some m)).getD .empty).Twins p
        ((if m'.entries.isEmpty then none else Option.some (ClientSet.some m')).getD .empty) := by
    intro m m' hm
    rw [isEmpty_eq_of_forall₂ hm]
    split
    · exact twins_empty p
    · exact .some hm
  cases ha with
  | all => exact hgetD (forall₂_map (forall₂_filter h.managed hq) fun _ _ hc => hc.ref)
  | some members =>
      exact hgetD (members.filter fun _ _ hr => any_eq_of_rel (h.lookup hr) hq)

theorem expand_none : (expand store q none).Twins p (expand store' q' none) := by
  have hmissing : ∀ c c' : Client, c.Twins p alike c' →
      (!ClientSet.empty.contains store c.window) = !ClientSet.empty.contains store' c'.window :=
    fun _ _ _ => rfl
  refine .some (Members.Twins.insertAll .nil ?_)
  exact forall₂_map (forall₂_filter (forall₂_filter h.managed hmissing) hq) fun _ _ hc => hc.ref

end Twins

end ClientSet

/-- The clients that two events give to an action, if they were meant for paired clients. -/
theorem DefaultSet.clients_twins (defaultSet : DefaultSet) {data data' : ActionData}
    (h : Option.Rel p.Pairs data.client data'.client) :
    Option.Rel (ClientSet.Twins p) (defaultSet.clients data) (defaultSet.clients data') := by
  cases defaultSet with
  | empty => exact .some (ClientSet.twins_empty p)
  | single => exact rel_map h fun _ _ => ClientSet.twins_single
  | all => exact .some .all

theorem ClientSet.Twins.getD_empty {set set' : Option ClientSet}
    (h : Option.Rel (ClientSet.Twins p) set set') :
    (set.getD .empty).Twins p (set'.getD .empty) := by
  cases h with
  | some hset => exact hset
  | none => exact twins_empty p

/-- The filter does not tell two clients of one window apart if their states are alike. -/
def Filter.Respects (alike : ClientState → ClientState → Prop) (f : Filter) : Prop :=
  ∀ test, f.rule = .matching test → ∀ c c' : Client, c.window = c'.window →
    c.managed = c'.managed → alike c.state c'.state → test c = test c'

/-- All filters of the chain have a property. -/
def TestChain.Only (q : Filter → Prop) (chain : TestChain) : Prop :=
  ∀ term ∈ chain, ∀ f ∈ term.filter, q f

namespace TestChain

theorem only_groups {q : Filter → Prop} {chain : TestChain} (hchain : chain.Only q) :
    ∀ group ∈ chain.groups, TestChain.Only q group := by
  intro group hgroup term hterm
  refine hchain term ?_
  rw [groups_eq_splitBy] at hgroup
  rw [← List.flatten_splitBy joinsNext chain]
  exact List.mem_flatten.2 ⟨group, hgroup, hterm⟩

theorem combine_twins {op op' : ClientSet → ClientSet → ClientSet}
    (hop : ∀ {a a' b b'}, a.Twins p a' → b.Twins p b' → (op a b).Twins p (op' a' b'))
    {sets sets' : List ClientSet} (hsets : List.Forall₂ (ClientSet.Twins p) sets sets') :
    (combine op sets).Twins p (combine op' sets') := by
  cases hsets with
  | nil => exact ClientSet.twins_empty p
  | cons ha hsets =>
      exact List.rel_foldl (R := ClientSet.Twins p) (fun _ _ ha _ _ hb => hop ha hb) ha hsets

end TestChain

section Chain

variable (h : store.Twins p alike store') {incoming incoming' : Option ClientSet}
  (hin : Option.Rel (ClientSet.Twins p) incoming incoming')

include h hin

theorem Term.select_twins {term : Term} (hterm : ∀ f ∈ term.filter, f.Respects alike) :
    (term.select store incoming).Twins p (term.select store' incoming') := by
  obtain ⟨filter, joint⟩ := term
  cases filter with
  | none => exact ClientSet.twins_empty p
  | some f =>
      have hf : f.Respects alike := hterm f rfl
      obtain ⟨info, invert, value, rule⟩ := f
      cases rule with
      | everything =>
          cases invert with
          | true => cases hin <;> exact ClientSet.twins_empty p
          | false =>
              cases hin with
              | some hset => exact hset.duplicate h
              | none => exact .all
      | matching test =>
          have htest : ∀ c c' : Client, c.Twins p alike c' →
              (test c != invert) = (test c' != invert) := by
            intro c c' hc
            rw [hf test rfl c c' hc.window hc.managed hc.state]
          cases hin with
          | some hset => exact (hset.duplicate h).reduce h htest
          | none => exact ClientSet.Twins.expand_none h htest

namespace TestChain

theorem selectGroup_twins {group : List Term} (hgroup : TestChain.Only (·.Respects alike) group) :
    (selectGroup store incoming group).Twins p (selectGroup store' incoming' group) := by
  refine combine_twins (ClientSet.Twins.intersection h) ?_
  rw [List.forall₂_map_left_iff, List.forall₂_map_right_iff, List.forall₂_same]
  exact fun term hterm => Term.select_twins h hin (hgroup term hterm)

theorem evaluate_twins {chain : TestChain} (hchain : chain.Only (·.Respects alike)) :
    (chain.evaluate store incoming).Twins p (chain.evaluate store' incoming') := by
  have hselected : (combine (ClientSet.union store)
      (chain.groups.map (selectGroup store incoming))).Twins p
      (combine (ClientSet.union store') (chain.groups.map (selectGroup store' incoming'))) := by
    refine combine_twins (ClientSet.Twins.union h) ?_
    rw [List.forall₂_map_left_iff, List.forall₂_map_right_iff, List.forall₂_same]
    exact fun group hgroup => selectGroup_twins h hin (only_groups hchain group hgroup)
  cases hin with
  | some hset => exact ClientSet.Twins.intersection h hselected (hset.duplicate h)
  | none => exact hselected

end TestChain

/-- What a conditional selects, for two events that were meant for paired clients. -/
theorem conditionalSet_twins {test : Option TestChain}
    (htest : ∀ chain ∈ test, TestChain.Only (·.Respects alike) chain) (accepted : ActionList)
    {data data' : ActionData} (hclient : Option.Rel p.Pairs data.client data'.client) :
    (conditionalSet test accepted store incoming data).Twins p
      (conditionalSet test accepted store' incoming' data') := by
  cases test with
  | some chain => exact TestChain.evaluate_twins h hin (htest chain rfl)
  | none =>
      cases hin with
      | some hset => exact hset.duplicate h
      | none =>
          simp only [conditionalSet]
          split
          · exact .getD_empty (DefaultSet.clients_twins _ hclient)
          · exact .all

end Chain

end WindowActions
