import Mathlib
import WindowActions.Builtin.Vocabulary
import WindowActions.Pattern.Engine
import WindowActions.Proofs.Amount.Numeral
import WindowActions.Proofs.Selection.Nested
import WindowActions.Vocabulary.Resolve

/-!
# Selecting by desktop

A filter selects, by itself and inside of a set, the clients that it admits. The desktop that the
filter `desktop` compares with is read as an amount, and an amount is at most the largest number of
32 bits with a sign, while desktops go up to the largest one without. So a filter for a desktop
beyond that selects the clients of another one. Up to there a desktop is selected exactly.
-/

namespace WindowActions

/-- By itself a filter selects the managed clients that pass a test, and inside of a set the clients
of the set that do, in their order. -/
structure Filter.Selects (f : Filter) (p : Client → Bool) : Prop where
  expand : ∀ store : ClientStore, (f.expand store none).clients store = store.managed.filter p
  reduce : ∀ (store : ClientStore) (set : ClientSet),
    ((f.reduce store set).getD .empty).clients store = (set.clients store).filter p

namespace ClientSet

theorem clients_expand_none (store : ClientStore) (p : Client → Bool) :
    (expand store p none).clients store = store.managed.filter p := by
  obtain ⟨m, hm, hlists⟩ := expand_none store p
  rw [hm, hlists.clients]

theorem clients_filter_any (store : ClientStore) (p : Client → Bool) (m : Members) :
    (ClientSet.some (m.filter fun r => (store.lookup r).any p)).clients store =
      ((ClientSet.some m).clients store).filter p := by
  show (m.entries.filter fun r => (store.lookup r).any p).filterMap store.lookup =
    (m.entries.filterMap store.lookup).filter p
  rw [List.filterMap_filter, List.filter_filterMap]
  refine List.filterMap_congr fun r _ => ?_
  cases store.lookup r with
  | none => rfl
  | some c => cases hc : p c <;> simp [Option.filter, hc]

theorem clients_reduce (store : ClientStore) (p : Client → Bool) (set : ClientSet) :
    ((set.reduce store p).getD empty).clients store = (set.clients store).filter p := by
  cases set with
  | all => rw [getD_reduce_all, clients_expand_none]; rfl
  | some m => rw [getD_reduce_some, clients_filter_any]

end ClientSet

namespace Filter

variable {f g : Filter} {p q : Client → Bool}

theorem selects_admits (f : Filter) : f.Selects f.admits := by
  obtain ⟨info, invert, value, rule⟩ := f
  cases rule with
  | matching test =>
      exact ⟨fun store => ClientSet.clients_expand_none store _,
        fun store set => ClientSet.clients_reduce store _ set⟩
  | everything =>
      cases invert with
      | true =>
          constructor
          · intro store
            exact (List.filter_eq_nil_iff.2 fun _ _ => Bool.false_ne_true).symm
          · intro store set
            exact (List.filter_eq_nil_iff.2 fun _ _ => Bool.false_ne_true).symm
      | false =>
          constructor
          · intro store
            exact (List.filter_eq_self.2 fun _ _ => rfl).symm
          · intro store set
            exact (List.filter_eq_self.2 fun _ _ => rfl).symm

/-- Some store has a client on any desktop, so a filter selects by one test of desktops only. -/
theorem Selects.desktop_congr (test test' : UInt32 → Bool) (h : f.Selects (test ·.state.desktop))
    (h' : f.Selects (test' ·.state.desktop)) (desktop : UInt32) : test desktop = test' desktop := by
  let client : Client := ⟨⟨0, 1⟩, { desktop }, true⟩
  let store := ClientStore.ofSpecs [⟨1, { desktop }⟩]
  have hfilter : [client].filter (test ·.state.desktop) = [client].filter (test' ·.state.desktop) :=
    (h.expand store).symm.trans (h'.expand store)
  have hmem : client ∈ [client].filter (test ·.state.desktop) ↔
      client ∈ [client].filter (test' ·.state.desktop) := by
    rw [hfilter]
  rw [Bool.eq_iff_iff]
  simpa using hmem

end Filter

section Digits

/-- The desktop that is read from the digits of a number. -/
def readDesktop (desktop : UInt32) : UInt32 := if desktop ≤ 2147483647 then desktop else 2147483647

theorem readDesktop_eq_iff (desktop : UInt32) :
    readDesktop desktop = desktop ↔ desktop ≤ 2147483647 := by
  rw [readDesktop]
  split
  case isTrue h => exact iff_of_true rfl h
  case isFalse h => exact iff_of_false (fun heq => h (heq ▸ UInt32.le_refl _)) h

theorem toNat_readDesktop (desktop : UInt32) :
    ((readDesktop desktop).toNat : Int) = clampAmount desktop.toNat := by
  have hmax : UInt32.toNat 2147483647 = 2147483647 := rfl
  simp only [readDesktop, UInt32.le_iff_toNat_le, hmax, clampAmount, minAmount, maxAmount]
  split <;> omega

theorem amountOf_toString (k : Nat) : amountOf (toString k) = clampAmount k := by
  have hnumeral : Numeral (Nat.toDigits 10 k ++ []) k [] := numeral_toDigits k (by rintro _ ⟨⟩)
  rw [List.append_nil] at hnumeral
  rw [amountOf, show (toString k).toList = Nat.toDigits 10 k from Nat.toList_repr,
    hnumeral.leadingInteger]

theorem desktopOf?_toString (desktop : UInt32) :
    desktopOf? (toString desktop.toNat) = some (readDesktop desktop) := by
  rw [desktopOf?, amountOf_toString, ← toNat_readDesktop]
  exact congrArg some UInt32.ofNat_toNat

theorem desktopSetup_toString (info : FilterInfo) (desktop : UInt32) :
    desktopSetup info (some (.text (toString desktop.toNat))) =
      .ok (.matching fun c => c.state.desktop == readDesktop desktop) := by
  simp only [desktopSetup, filterText, bind, Except.bind, desktopOf?_toString]

end Digits

namespace Filter

variable {f : Filter} {read : UInt32}

/-- A filter for the clients on one side of a desktop is for that side of no other desktop. -/
theorem Selects.desktop_iff (side : Bool → Bool) (hside : side true ≠ side false)
    (h : f.Selects fun c => side (c.state.desktop == read)) (desktop : UInt32) :
    (f.Selects fun c => side (c.state.desktop == desktop)) ↔ read = desktop := by
  constructor
  · intro h'
    have hsame : side (read == read) = side (read == desktop) :=
      Selects.desktop_congr (fun e => side (e == read)) (fun e => side (e == desktop)) h h' read
    by_contra hne
    rw [beq_self_eq_true, beq_eq_false_iff_ne.2 hne] at hsame
    exact hside hsame
  · rintro rfl
    exact h

/-- The filter `desktop` or `nodesktop` for the digits of a number. -/
def ofDesktop (invert : Bool) (desktop : UInt32) : Filter where
  info := ⟨5, "desktop"⟩
  invert := invert
  value := some (.text (toString desktop.toNat))
  rule := .matching fun c => c.state.desktop == readDesktop desktop

theorem makeFilter_ofDesktop [PatternEngine] {key : String} {invert : Bool} (desktop : UInt32)
    (hfind : Vocabulary.builtin.findFilter? key =
      some (⟨⟨5, "desktop"⟩, desktopSetup ⟨5, "desktop"⟩⟩, invert)) :
    (Vocabulary.builtin.makeFilter key (some (.text (toString desktop.toNat)))).result =
      .ok (some (ofDesktop invert desktop)) := by
  rw [Vocabulary.makeFilter, hfind]
  simp only [desktopSetup_toString]
  rfl

/-- For the digits of any number that a desktop can have there are the filters `desktop` and
`nodesktop`. They select the clients of the desktop that is read and the other ones. This is the
desktop that was written exactly if an amount can be as large. -/
theorem desktop_selects_iff [PatternEngine] (desktop : UInt32) :
    ∃ f g,
      (Vocabulary.builtin.makeFilter "desktop" (some (.text (toString desktop.toNat)))).result =
        .ok (some f) ∧
      (Vocabulary.builtin.makeFilter "nodesktop" (some (.text (toString desktop.toNat)))).result =
        .ok (some g) ∧
      f.Selects (·.state.desktop == readDesktop desktop) ∧
      g.Selects (·.state.desktop != readDesktop desktop) ∧
      (f.Selects (·.state.desktop == desktop) ↔ desktop ≤ 2147483647) ∧
      (g.Selects (·.state.desktop != desktop) ↔ desktop ≤ 2147483647) := by
  have hread : (ofDesktop false desktop).Selects (·.state.desktop == readDesktop desktop) := by
    have hadmits : (ofDesktop false desktop).admits = (·.state.desktop == readDesktop desktop) :=
      funext fun c => Bool.bne_false _
    exact hadmits ▸ selects_admits _
  have hothers : (ofDesktop true desktop).Selects (·.state.desktop != readDesktop desktop) := by
    have hadmits : (ofDesktop true desktop).admits = (·.state.desktop != readDesktop desktop) :=
      funext fun c => Bool.bne_true _
    exact hadmits ▸ selects_admits _
  exact ⟨_, _, makeFilter_ofDesktop desktop (by cbv), makeFilter_ofDesktop desktop (by cbv),
    hread, hothers,
    (hread.desktop_iff id Bool.false_ne_true.symm desktop).trans (readDesktop_eq_iff desktop),
    (hothers.desktop_iff not Bool.false_ne_true desktop).trans (readDesktop_eq_iff desktop)⟩

/-- The clients of desktop 2147483647 are selected in the place of those of a later one. -/
theorem desktop_not_selected :
    ∃ f g,
      (Vocabulary.builtin.makeFilter "desktop" (some (.text "3000000000"))).result =
        .ok (some f) ∧
      (Vocabulary.builtin.makeFilter "nodesktop" (some (.text "3000000000"))).result =
        .ok (some g) ∧
      let store := ClientStore.ofSpecs
        [⟨1, { desktop := 2147483647 }⟩, ⟨2, { desktop := 3000000000 }⟩]
      ((f.expand store none).clients store).map (·.spec) = [⟨1, { desktop := 2147483647 }⟩] ∧
      ((g.expand store none).clients store).map (·.spec) = [⟨2, { desktop := 3000000000 }⟩] :=
  ⟨ofDesktop false 3000000000, ofDesktop true 3000000000,
    makeFilter_ofDesktop 3000000000 (by cbv), makeFilter_ofDesktop 3000000000 (by cbv),
    by decide, by decide⟩

end Filter

end WindowActions
