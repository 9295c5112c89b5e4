import Mathlib.Data.List.TakeWhile
import WindowActions.Proofs.Amount.Saturation
import WindowActions.Proofs.Text.Digits

/-!
# Numbers at the start of a text

`Numeral cs n rest` says that a text starts with the number `n` and goes on with `rest`. In front
there are blanks, at most one sign, and ASCII digits, each for as long as the text goes on with
them; without digits the number is zero. The number has any size: what is read from the text is the
nearest one that an amount can be.

Every text starts with exactly one number.
-/

namespace WindowActions

/-- All the digits that a text starts with, as their value, and the text behind them. -/
inductive DigitRun : List Char → Nat → List Char → Prop
  | mk {digits rest : List Char} (digit : ∀ c ∈ digits, isAsciiDigit c = true)
      (stop : ∀ c ∈ rest.head?, isAsciiDigit c = false) :
      DigitRun (digits ++ rest) (decimalValue digits) rest

/-- Digits behind at most one sign. -/
inductive SignedRun : List Char → Int → List Char → Prop
  | minus {cs rest : List Char} {k : Nat} (run : DigitRun cs k rest) :
      SignedRun ('-' :: cs) (-k) rest
  | plus {cs rest : List Char} {k : Nat} (run : DigitRun cs k rest) : SignedRun ('+' :: cs) k rest
  | unsigned {cs rest : List Char} {k : Nat} (bare : ∀ c ∈ cs.head?, c ≠ '-' ∧ c ≠ '+')
      (run : DigitRun cs k rest) : SignedRun cs k rest

/-- The number that a text starts with, and the text behind it. -/
inductive Numeral : List Char → Int → List Char → Prop
  | blank {c : Char} {cs rest : List Char} {n : Int} (blank : isBlank c = true)
      (behind : Numeral cs n rest) : Numeral (c :: cs) n rest
  | signed {cs rest : List Char} {n : Int} (start : ∀ c ∈ cs.head?, isBlank c = false)
      (run : SignedRun cs n rest) : Numeral cs n rest

variable {cs rest : List Char} {k : Nat} {n : Int}

theorem DigitRun.takeWhile (h : DigitRun cs k rest) :
    k = decimalValue (cs.takeWhile isAsciiDigit) ∧ rest = cs.dropWhile isAsciiDigit := by
  obtain ⟨hdigit, hstop⟩ := h
  rw [List.takeWhile_append_of_pos hdigit, List.dropWhile_append_of_pos hdigit]
  cases rest with
  | nil => simp
  | cons c rest => simp [hstop c rfl]

theorem digitRun_takeWhile (cs : List Char) :
    DigitRun cs (decimalValue (cs.takeWhile isAsciiDigit)) (cs.dropWhile isAsciiDigit) := by
  have hrun : DigitRun (cs.takeWhile isAsciiDigit ++ cs.dropWhile isAsciiDigit) _ _ :=
    .mk (fun c hc => List.mem_takeWhile_imp hc) fun _ => eq_false_of_mem_head?_dropWhile
  rwa [List.takeWhile_append_dropWhile] at hrun

theorem splitSign_of_bare (h : ∀ c ∈ cs.head?, c ≠ '-' ∧ c ≠ '+') : splitSign cs = (false, cs) := by
  unfold splitSign
  split
  case h_1 => exact absurd rfl (h '-' rfl).1
  case h_2 => exact absurd rfl (h '+' rfl).2
  case h_3 => rfl

theorem SignedRun.splitSign (h : SignedRun cs n rest) :
    ∃ k, DigitRun (splitSign cs).2 k rest ∧ n = signedValue (splitSign cs).1 k := by
  cases h with
  | minus run => exact ⟨_, run, rfl⟩
  | plus run => exact ⟨_, run, rfl⟩
  | unsigned bare run =>
      rw [splitSign_of_bare bare]
      exact ⟨_, run, rfl⟩

theorem signedRun_splitSign (run : DigitRun (splitSign cs).2 k rest) :
    SignedRun cs (signedValue (splitSign cs).1 k) rest := by
  revert run
  fun_cases WindowActions.splitSign cs
  case case1 => exact fun run => .minus run
  case case2 => exact fun run => .plus run
  case case3 hminus hplus =>
      refine fun run => .unsigned (fun c hc => ?_) run
      cases cs with
      | nil => cases hc
      | cons d ds =>
          cases hc
          exact ⟨fun h => hminus ds (by rw [h]), fun h => hplus ds (by rw [h])⟩

theorem Numeral.trimStart (h : Numeral cs n rest) : SignedRun (trimStart cs) n rest := by
  induction h with
  | blank hblank _ ih => rwa [trimStart_cons, if_pos hblank]
  | @signed cs _ _ start run =>
      cases cs with
      | nil => exact run
      | cons c cs => rwa [trimStart_cons, start c rfl, if_neg Bool.false_ne_true]

theorem numeral_trimStart (cs : List Char) (run : SignedRun (trimStart cs) n rest) :
    Numeral cs n rest := by
  induction cs with
  | nil => exact .signed (fun c hc => by cases hc) run
  | cons c cs ih =>
      rw [trimStart_cons] at run
      by_cases hblank : isBlank c = true
      · rw [if_pos hblank] at run
        exact .blank hblank (ih run)
      · rw [if_neg hblank] at run
        refine .signed (fun d hd => ?_) run
        cases hd
        exact eq_false_of_ne_true hblank

theorem exists_numeral (cs : List Char) : ∃ n rest, Numeral cs n rest :=
  ⟨_, _, numeral_trimStart cs (signedRun_splitSign (digitRun_takeWhile _))⟩

/-- The number that is read from a text is the one that it starts with, clamped. -/
theorem Numeral.leadingInteger (h : Numeral cs n rest) :
    leadingInteger cs = (clampAmount n, rest) := by
  obtain ⟨k, hrun, rfl⟩ := h.trimStart.splitSign
  obtain ⟨rfl, rfl⟩ := hrun.takeWhile
  rw [← signedAmount_eq]
  rfl

theorem Numeral.unique {m : Int} {more : List Char} (h : Numeral cs n rest)
    (h' : Numeral cs m more) : n = m ∧ rest = more := by
  obtain ⟨k, hrun, rfl⟩ := h.trimStart.splitSign
  obtain ⟨l, hrun', rfl⟩ := h'.trimStart.splitSign
  obtain ⟨rfl, rfl⟩ := hrun.takeWhile
  obtain ⟨rfl, rfl⟩ := hrun'.takeWhile
  exact ⟨rfl, rfl⟩

theorem isBlank_of_isAsciiDigit {c : Char} (h : isAsciiDigit c = true) : isBlank c = false := by
  have hcodes : ∀ code ≤ '9'.toNat, '0'.toNat ≤ code → blankRanges.covers code = false := by decide
  simp only [isAsciiDigit, Bool.and_eq_true, decide_eq_true_eq, Char.le_def] at h
  exact hcodes c.toNat h.2 h.1

theorem digitRun_toDigits (k : Nat) (hstop : ∀ c ∈ rest.head?, isAsciiDigit c = false) :
    DigitRun (Nat.toDigits 10 k ++ rest) k rest := by
  have hrun : DigitRun (Nat.toDigits 10 k ++ rest) (decimalValue (Nat.toDigits 10 k)) rest :=
    .mk (fun c hc => isAsciiDigit_toDigits hc) hstop
  rwa [decimalValue_toDigits] at hrun

/-- The digits of a natural number are a numeral of it. -/
theorem numeral_toDigits (k : Nat) (hstop : ∀ c ∈ rest.head?, isAsciiDigit c = false) :
    Numeral (Nat.toDigits 10 k ++ rest) k rest := by
  have hrun := digitRun_toDigits k hstop
  obtain ⟨c, cs, hdigits, hdigit⟩ := toDigits_cons k
  rw [hdigits] at hrun ⊢
  refine .signed ?_ (.unsigned ?_ hrun)
  · rintro d ⟨⟩
    exact isBlank_of_isAsciiDigit hdigit
  · rintro d ⟨⟩
    constructor
    · rintro rfl
      cases hdigit
    · rintro rfl
      cases hdigit

theorem clampAmount_nonneg_iff (n : Int) : 0 ≤ clampAmount n ↔ 0 ≤ n := by
  simp only [clampAmount, minAmount, maxAmount]
  omega

theorem clampAmount_pos_iff (n : Int) : 0 < clampAmount n ↔ 0 < n := by
  simp only [clampAmount, minAmount, maxAmount]
  omega

end WindowActions
