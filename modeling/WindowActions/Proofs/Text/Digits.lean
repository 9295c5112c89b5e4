import WindowActions.Text.Decimal

/-!
# Numbers written in decimal digits

The digits of a natural number are ASCII digits of which the number is the value, and only zero
begins with a zero.
-/

namespace WindowActions

theorem isAsciiDigit_toDigits {c : Char} {k : Nat} (h : c ∈ Nat.toDigits 10 k) :
    isAsciiDigit c = true := by
  have hdigit := Nat.isDigit_of_mem_toDigits (by decide) (by decide) h
  simpa [isAsciiDigit, Char.isDigit, Char.le_def] using hdigit

theorem decimalValue_toDigits (k : Nat) : decimalValue (Nat.toDigits 10 k) = k := by
  have hvalue : ∀ (cs : List Char) (n : Nat), decimalValueFrom n cs = Nat.ofDigitChars 10 cs n := by
    intro cs
    induction cs with
    | nil => exact fun n => rfl
    | cons c cs ih =>
        intro n
        rw [decimalValueFrom_cons, ih, Nat.ofDigitChars_cons, Nat.mul_comm n 10, digitValue]
  rw [decimalValue, hvalue, Nat.ofDigitChars_toDigits (by decide) (by decide)]

/-- The digits of a positive number do not begin with a zero. -/
theorem head?_toDigits {k : Nat} (h : 0 < k) : (Nat.toDigits 10 k).head? ≠ some '0' := by
  induction k using Nat.strongRecOn with
  | ind k ih =>
      by_cases hlow : k < 10
      · have hone : ∀ k < 10, 0 < k → [Nat.digitChar k].head? ≠ some '0' := by decide
        rw [Nat.toDigits_of_lt_base hlow]
        exact hone k hlow h
      · have hpos : 0 < k / 10 := Nat.div_pos (by omega) (by decide)
        have hsplit := Nat.toDigits_append_toDigits (b := 10) (by decide) hpos
          (Nat.mod_lt k (by decide))
        rw [Nat.div_add_mod] at hsplit
        have hhead := ih (k / 10) (Nat.div_lt_self h (by decide)) hpos
        rw [← hsplit]
        cases hdigits : Nat.toDigits 10 (k / 10) with
        | nil => exact absurd hdigits Nat.toDigits_ne_nil
        | cons c cs =>
            rw [hdigits] at hhead
            exact hhead

theorem toDigits_cons (k : Nat) : ∃ c cs, Nat.toDigits 10 k = c :: cs ∧ isAsciiDigit c = true := by
  cases hdigits : Nat.toDigits 10 k with
  | nil => exact absurd hdigits Nat.toDigits_ne_nil
  | cons c cs =>
      have hmem : c ∈ Nat.toDigits 10 k := by
        rw [hdigits]
        exact List.mem_cons_self
      exact ⟨c, cs, rfl, isAsciiDigit_toDigits hmem⟩

end WindowActions
