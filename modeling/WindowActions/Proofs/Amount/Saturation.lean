import WindowActions.Amount

/-!
# Numbers of any size as amounts

Digits are read one at a time into 64 bits, and reading gives up at the first one that makes the
number too wide. Behind a sign the number moves in one direction only, so it never comes back into
range: reading gives up exactly if the number as a whole is too wide. All amounts are in the wide
range, so what is given up lies beyond them, on the side of its sign, and saturating there is the
same as clamping the number itself.
-/

namespace WindowActions

/-- The number that digits of the value `k` stand for behind a sign. -/
def signedValue (negative : Bool) (k : Nat) : Int := if negative then -k else k

/-- A number that 64 bits can hold. -/
def IsWide (n : Int) : Prop := minWide ≤ n ∧ n ≤ maxWide

instance (n : Int) : Decidable (IsWide n) := inferInstanceAs (Decidable (_ ∧ _))

theorem le_decimalValueFrom (k : Nat) (digits : List Char) : k ≤ decimalValueFrom k digits := by
  induction digits generalizing k with
  | nil => exact Nat.le_refl k
  | cons c cs ih =>
      rw [decimalValueFrom_cons]
      have hstep : k ≤ k * 10 + digitValue c := by omega
      exact Nat.le_trans hstep (ih _)

section Digits

variable {negative : Bool} {k l : Nat}

theorem isWide_signedValue_of_le (hle : k ≤ l) (h : IsWide (signedValue negative l)) :
    IsWide (signedValue negative k) := by
  cases negative with
  | false =>
      simp only [IsWide, signedValue, minWide, maxWide, Bool.false_eq_true, if_false] at *
      omega
  | true =>
      simp only [IsWide, signedValue, minWide, maxWide, if_true] at *
      omega

theorem pushDigit?_signedValue (negative : Bool) (k : Nat) (c : Char) :
    pushDigit? negative (signedValue negative k) c =
      if IsWide (signedValue negative (k * 10 + digitValue c)) then
        some (signedValue negative (k * 10 + digitValue c))
      else none := by
  have hnext : (if negative then signedValue negative k * 10 - digitValue c
      else signedValue negative k * 10 + digitValue c) =
      signedValue negative (k * 10 + digitValue c) := by
    cases negative with
    | false =>
        simp only [signedValue, Bool.false_eq_true, if_false]
        omega
    | true =>
        simp only [signedValue, if_true]
        omega
  simp only [pushDigit?, hnext]
  rfl

/-- Reading on from a number gives the number with all its digits, unless that is too wide. -/
theorem foldlM_pushDigit? (digits : List Char) (h : IsWide (signedValue negative k)) :
    digits.foldlM (pushDigit? negative) (signedValue negative k) =
      if IsWide (signedValue negative (decimalValueFrom k digits)) then
        some (signedValue negative (decimalValueFrom k digits))
      else none := by
  induction digits generalizing k with
  | nil =>
      rw [decimalValueFrom_nil, if_pos h]
      rfl
  | cons c cs ih =>
      rw [List.foldlM_cons, pushDigit?_signedValue, decimalValueFrom_cons]
      by_cases hwide : IsWide (signedValue negative (k * 10 + digitValue c))
      · rw [if_pos hwide]
        exact ih hwide
      · have hnever := mt (isWide_signedValue_of_le (le_decimalValueFrom _ cs)) hwide
        rw [if_neg hwide, if_neg hnever]
        rfl

theorem clampAmount_of_not_isWide (h : ¬ IsWide (signedValue negative k)) :
    clampAmount (signedValue negative k) = if negative then minAmount else maxAmount := by
  cases negative with
  | false =>
      simp only [IsWide, signedValue, minWide, maxWide, clampAmount, minAmount, maxAmount,
        Bool.false_eq_true, if_false] at *
      omega
  | true =>
      simp only [IsWide, signedValue, minWide, maxWide, clampAmount, minAmount, maxAmount,
        if_true] at *
      omega

end Digits

/-- An amount is the number that its digits stand for behind the sign, of any size, clamped. -/
theorem signedAmount_eq (negative : Bool) (digits : List Char) :
    signedAmount negative digits = clampAmount (signedValue negative (decimalValue digits)) := by
  have hzero : IsWide (signedValue negative 0) := by cases negative <;> decide
  cases digits with
  | nil => cases negative <;> rfl
  | cons c cs =>
      have hread : readWide? negative (c :: cs) =
          if IsWide (signedValue negative (decimalValue (c :: cs))) then
            some (signedValue negative (decimalValue (c :: cs)))
          else none := by
        have hstart : signedValue negative 0 = 0 := by cases negative <;> rfl
        rw [decimalValue, ← foldlM_pushDigit? _ hzero, hstart]
        rfl
      rw [signedAmount, hread]
      by_cases hwide : IsWide (signedValue negative (decimalValue (c :: cs)))
      · rw [if_pos hwide]
      · rw [if_neg hwide, clampAmount_of_not_isWide hwide]
        rfl

end WindowActions
