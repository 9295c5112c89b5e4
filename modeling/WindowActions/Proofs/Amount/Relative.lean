import WindowActions.ActionList.Basic
import WindowActions.Proofs.Amount.Numeral

/-!
# Relative amounts and places

A number is relative if a percent sign or a slash stands behind it. The denominator tells, by not
being zero, that a value is relative, and it is not negative: it is `WellMarked`. The number of a
place counts from the edge that its one sign names, so it is not negative either.

Neither holds for all texts. A denominator is read like any other number, so it may be zero or have
a minus, and the number of a place may have a sign of its own behind the one that names the edge.
`Value.relative_wellMarked_iff` says for every text what is read, and that these are the only
exceptions.
-/

namespace WindowActions

/-- The text behind a number makes the number relative. -/
def IsRelative (rest : List Char) : Prop := ∃ cs, rest = '%' :: cs ∨ rest = '/' :: cs

/-- What the text behind a number says about the denominator. -/
inductive Suffix : List Char → Int → Prop
  | percent (cs : List Char) : Suffix ('%' :: cs) 100
  | slash {cs rest : List Char} {n : Int} (numeral : Numeral cs n rest) :
      Suffix ('/' :: cs) (clampAmount n)
  | absent {rest : List Char} (absolute : ¬ IsRelative rest) : Suffix rest 0

/-- A denominator is zero only for absolute amounts, and it is never negative. -/
structure WellMarked (rest : List Char) (denom : Int) : Prop where
  absolute_of_eq_zero : denom = 0 → ¬ IsRelative rest
  nonneg : 0 ≤ denom

variable {cs rest : List Char} {denom : Int}

theorem suffix_denominatorOf (rest : List Char) : Suffix rest (denominatorOf rest) := by
  fun_cases denominatorOf rest
  case case1 cs => exact .percent cs
  case case2 cs =>
      obtain ⟨n, more, hnumeral⟩ := exists_numeral cs
      rw [hnumeral.leadingInteger]
      exact .slash hnumeral
  case case3 hpercent hslash =>
      refine .absent ?_
      rintro ⟨cs, rfl | rfl⟩
      · exact hpercent cs rfl
      · exact hslash cs rfl

/-- A denominator is well marked unless a slash is followed by zero or by a negative number. -/
theorem Suffix.wellMarked_iff (h : Suffix rest denom) :
    WellMarked rest denom ↔ ∀ cs n more, rest = '/' :: cs → Numeral cs n more → 0 < n := by
  cases h with
  | percent cs =>
      have hmarked : WellMarked ('%' :: cs) 100 :=
        ⟨fun hzero => absurd hzero (by decide), by decide⟩
      refine iff_of_true hmarked ?_
      rintro _ _ _ ⟨⟩
  | @slash cs more n hnumeral =>
      constructor
      · rintro hmarked _ m _ ⟨⟩ hm
        obtain ⟨rfl, -⟩ := hnumeral.unique hm
        have hne : clampAmount n ≠ 0 := fun hzero =>
          hmarked.absolute_of_eq_zero hzero ⟨cs, .inr rfl⟩
        have hnonneg := hmarked.nonneg
        exact (clampAmount_pos_iff n).1 (by omega)
      · intro hpos
        have hdenom := (clampAmount_pos_iff n).2 (hpos cs n more rfl hnumeral)
        exact ⟨fun hzero => by omega, by omega⟩
  | absent habsolute =>
      refine iff_of_true ⟨fun _ => habsolute, Int.le_refl 0⟩ ?_
      rintro cs _ _ rfl
      exact absurd ⟨cs, .inr rfl⟩ habsolute

theorem Numeral.fraction_ofText {s : String} {n : Int} (h : Numeral (trimBlanks s.toList) n rest) :
    Fraction.ofText s = ⟨clampAmount n, denominatorOf rest⟩ := by
  rw [Fraction.ofText, h.leadingInteger]

theorem GravityCoordinate.ofText_center {s : String}
    (h : sameName (String.ofList (trimBlanks s.toList)) "center" = true) :
    ofText s = ⟨0, 0, true, false⟩ := by
  simp only [ofText, h, if_true]

theorem Numeral.gravity_ofText {s : String} {n : Int}
    (hcenter : sameName (String.ofList (trimBlanks s.toList)) "center" = false)
    (h : Numeral (splitSign (trimBlanks s.toList)).2 n rest) :
    GravityCoordinate.ofText s =
      ⟨clampAmount n, denominatorOf rest, false, (splitSign (trimBlanks s.toList)).1⟩ := by
  simp only [GravityCoordinate.ofText, hcenter, Bool.false_eq_true, if_false, h.leadingInteger]

theorem splitSign_fst_iff (cs : List Char) : (splitSign cs).1 = true ↔ cs.head? = some '-' := by
  fun_cases splitSign cs
  case case1 => simp
  case case2 => simp
  case case3 hminus _ =>
      refine iff_of_false Bool.false_ne_true fun hhead => ?_
      obtain ⟨ds, rfl⟩ := List.head?_eq_some_iff.1 hhead
      exact hminus ds rfl

namespace Value

/-- A fraction has the number that its text starts with, and a coordinate that is not the center
the number behind at most one sign; the denominators are what the suffixes say. A denominator is
well marked exactly if no slash is followed by zero or by a negative number, and the number of a
coordinate is not negative exactly if it has no minus of its own. -/
theorem relative_wellMarked_iff (s : String) :
    (∃ f n rest, (text s).fraction = .ok f ∧ Numeral (trimBlanks s.toList) n rest ∧
      f.numer = clampAmount n ∧ Suffix rest f.denom ∧
      (WellMarked rest f.denom ↔ ∀ cs d more, rest = '/' :: cs → Numeral cs d more → 0 < d)) ∧
    (sameName (String.ofList (trimBlanks s.toList)) "center" = true ∧
        (text s).gravity = .ok ⟨0, 0, true, false⟩ ∨
      ∃ g n rest, (text s).gravity = .ok g ∧ g.center = false ∧
        (g.opposite = true ↔ (trimBlanks s.toList).head? = some '-') ∧
        Numeral (splitSign (trimBlanks s.toList)).2 n rest ∧
        g.pos = clampAmount n ∧ (0 ≤ g.pos ↔ 0 ≤ n) ∧ Suffix rest g.denom ∧
        (WellMarked rest g.denom ↔ ∀ cs d more, rest = '/' :: cs → Numeral cs d more → 0 < d)) := by
  constructor
  · obtain ⟨n, rest, hnumeral⟩ := exists_numeral (trimBlanks s.toList)
    have hsuffix := suffix_denominatorOf rest
    exact ⟨_, n, rest, congrArg Except.ok hnumeral.fraction_ofText, hnumeral, rfl, hsuffix,
      hsuffix.wellMarked_iff⟩
  · by_cases hcenter : sameName (String.ofList (trimBlanks s.toList)) "center" = true
    · exact .inl ⟨hcenter, congrArg Except.ok (GravityCoordinate.ofText_center hcenter)⟩
    · obtain ⟨n, rest, hnumeral⟩ := exists_numeral (splitSign (trimBlanks s.toList)).2
      have hsuffix := suffix_denominatorOf rest
      have hread := hnumeral.gravity_ofText (eq_false_of_ne_true hcenter)
      exact .inr ⟨_, n, rest, congrArg Except.ok hread, rfl, splitSign_fst_iff _, hnumeral, rfl,
        clampAmount_nonneg_iff n, hsuffix, hsuffix.wellMarked_iff⟩

/-- A slash may be followed by zero, which is the denominator of an absolute amount, or by a
negative number, and the distance from the opposite edge may be negative too. -/
theorem relative_not_wellMarked :
    (∃ f n rest, (text "1/0").fraction = .ok f ∧ Numeral (trimBlanks "1/0".toList) n rest ∧
      IsRelative rest ∧ f.denom = 0) ∧
    (∃ f, (text "1/-3").fraction = .ok f ∧ f.denom = -3) ∧
    ∃ g, (text "--5").gravity = .ok g ∧ g.opposite = true ∧ g.pos = -5 := by
  have hnumeral : Numeral (Nat.toDigits 10 1 ++ ['/', '0']) 1 ['/', '0'] :=
    numeral_toDigits 1 (by rintro _ ⟨⟩; rfl)
  exact ⟨⟨⟨1, 0⟩, 1, ['/', '0'], rfl, hnumeral, ⟨['0'], .inr rfl⟩, rfl⟩, ⟨⟨1, -3⟩, rfl, rfl⟩,
    ⟨-5, 0, false, true⟩, rfl, rfl, rfl⟩

end Value

end WindowActions
