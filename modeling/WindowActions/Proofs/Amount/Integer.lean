import WindowActions.ActionList.Basic
import WindowActions.Proofs.Amount.Numeral

/-!
# The integer that a text stands for

`SignedDigits` are the texts that consist of a number alone: at most one sign, and ASCII digits. A
text starts, behind its blanks, with several of them, one within the other. The integer that it
stands for is that of the longest, clamped to 32 bits. So numbers of 32 bits that are written down
alone, in front of a percent sign or on both sides of a slash are read back.
-/

namespace WindowActions

/-- At most one sign with ASCII digits behind it, and the number that they denote. -/
inductive SignedDigits : List Char → Int → Prop
  | minus {digits : List Char} (digit : ∀ c ∈ digits, isAsciiDigit c = true) :
      SignedDigits ('-' :: digits) (-decimalValue digits)
  | plus {digits : List Char} (digit : ∀ c ∈ digits, isAsciiDigit c = true) :
      SignedDigits ('+' :: digits) (decimalValue digits)
  | unsigned {digits : List Char} (digit : ∀ c ∈ digits, isAsciiDigit c = true) :
      SignedDigits digits (decimalValue digits)

/-- Of the numbers that a text starts with, the one with the most characters. -/
structure LongestNumber (cs front : List Char) (n : Int) : Prop where
  signed : SignedDigits front n
  starts : front <+: cs
  longest : ∀ other m, SignedDigits other m → other <+: cs → other.length ≤ front.length

section Longest

variable {cs digits other rest : List Char} {n m : Int}

theorem length_le_of_digits_ahead (hstop : ∀ c ∈ rest.head?, isAsciiDigit c = false)
    (hother : ∀ c ∈ other, isAsciiDigit c = true) (hahead : other <+: digits ++ rest) :
    other.length ≤ digits.length := by
  by_contra hlonger
  have hwithin : digits <+: other :=
    List.prefix_of_prefix_length_le (List.prefix_append _ _) hahead (by omega)
  obtain ⟨more, rfl⟩ := hwithin
  cases more with
  | nil => exact hlonger (by simp)
  | cons c more =>
      obtain ⟨behind, rfl⟩ := (List.prefix_append_right_inj digits).1 hahead
      have hdigit : isAsciiDigit c = true := hother c (by simp)
      rw [hstop c rfl] at hdigit
      cases hdigit

/-- In front of a text that starts with no sign the longest number has none. -/
theorem SignedDigits.digits_of_bare (h : SignedDigits other m)
    (hbare : ∀ c ∈ cs.head?, c ≠ '-' ∧ c ≠ '+') (hahead : other <+: cs) :
    ∀ c ∈ other, isAsciiDigit c = true := by
  cases h with
  | minus =>
      obtain ⟨behind, rfl⟩ := hahead
      exact absurd rfl (hbare '-' rfl).1
  | plus =>
      obtain ⟨behind, rfl⟩ := hahead
      exact absurd rfl (hbare '+' rfl).2
  | unsigned digit => exact digit

/-- In front of a text that starts with a sign a number is empty or has that sign. -/
theorem SignedDigits.digits_of_sign {sign : Char} (h : SignedDigits other m)
    (hsign : isAsciiDigit sign = false) (hahead : other <+: sign :: cs) :
    other = [] ∨ ∃ digits, other = sign :: digits ∧ digits <+: cs ∧
      ∀ c ∈ digits, isAsciiDigit c = true := by
  cases h with
  | minus digit | plus digit =>
      obtain ⟨rfl, hdigits⟩ := List.cons_prefix_cons.1 hahead
      exact .inr ⟨_, rfl, hdigits, digit⟩
  | unsigned digit =>
      cases other with
      | nil => exact .inl rfl
      | cons c other =>
          obtain ⟨rfl, -⟩ := List.cons_prefix_cons.1 hahead
          rw [digit c List.mem_cons_self] at hsign
          cases hsign

theorem longest_of_sign {sign : Char} (hsign : isAsciiDigit sign = false)
    (hstop : ∀ c ∈ rest.head?, isAsciiDigit c = false) (h : SignedDigits other m)
    (hahead : other <+: sign :: (digits ++ rest)) : other.length ≤ (sign :: digits).length := by
  rcases h.digits_of_sign hsign hahead with rfl | ⟨more, rfl, hmore, hdigit⟩
  · exact Nat.zero_le _
  · exact Nat.succ_le_succ (length_le_of_digits_ahead hstop hdigit hmore)

/-- What is read in front of a text is the longest number there. -/
theorem SignedRun.longest (h : SignedRun cs n rest) :
    ∃ front, cs = front ++ rest ∧ LongestNumber cs front n := by
  cases h with
  | minus run =>
      obtain ⟨hdigit, hstop⟩ := run
      exact ⟨'-' :: _, rfl, .minus hdigit, List.prefix_append _ _,
        fun _ _ hother => longest_of_sign rfl hstop hother⟩
  | plus run =>
      obtain ⟨hdigit, hstop⟩ := run
      exact ⟨'+' :: _, rfl, .plus hdigit, List.prefix_append _ _,
        fun _ _ hother => longest_of_sign rfl hstop hother⟩
  | unsigned bare run =>
      obtain ⟨hdigit, hstop⟩ := run
      exact ⟨_, rfl, .unsigned hdigit, List.prefix_append _ _, fun _ _ hother hahead =>
        length_le_of_digits_ahead hstop (hother.digits_of_bare bare hahead) hahead⟩

end Longest

section Written

variable {rest : List Char}

theorem toList_toString_negSucc (k : Nat) :
    (toString (Int.negSucc k)).toList = '-' :: Nat.toDigits 10 (k + 1) := by
  show ("-" ++ Nat.repr (k + 1)).toList = _
  rw [String.toList_append, Nat.toList_repr]
  rfl

/-- A number that is written down is a numeral of itself. -/
theorem numeral_toString (n : Int) (hstop : ∀ c ∈ rest.head?, isAsciiDigit c = false) :
    Numeral ((toString n).toList ++ rest) n rest := by
  cases n with
  | ofNat k =>
      rw [show (toString (Int.ofNat k)).toList = Nat.toDigits 10 k from Nat.toList_repr]
      exact numeral_toDigits k hstop
  | negSucc k =>
      rw [toList_toString_negSucc]
      refine .signed ?_ (.minus (digitRun_toDigits (k + 1) hstop))
      rintro c ⟨⟩
      rfl

theorem isBlank_of_mem_toString {n : Int} {c : Char} (h : c ∈ (toString n).toList) :
    isBlank c = false := by
  cases n with
  | ofNat k =>
      rw [show (toString (Int.ofNat k)).toList = Nat.toDigits 10 k from Nat.toList_repr] at h
      exact isBlank_of_isAsciiDigit (isAsciiDigit_toDigits h)
  | negSucc k =>
      rw [toList_toString_negSucc] at h
      rcases List.mem_cons.1 h with rfl | h
      · rfl
      · exact isBlank_of_isAsciiDigit (isAsciiDigit_toDigits h)

/-- Blanks are cut off in front, and nothing else. -/
theorem exists_blanks (cs : List Char) : ∃ blanks, cs = blanks ++ trimStart cs ∧
    (∀ c ∈ blanks, isBlank c = true) ∧ ∀ c ∈ (trimStart cs).head?, isBlank c = false :=
  ⟨cs.takeWhile isBlank, List.takeWhile_append_dropWhile.symm, fun _ => List.mem_takeWhile_imp,
    fun _ => eq_false_of_mem_head?_dropWhile⟩

theorem trimStart_of_forall {cs : List Char} (h : ∀ c ∈ cs, isBlank c = false) :
    trimStart cs = cs := by
  cases cs with
  | nil => rfl
  | cons c cs => rw [trimStart_cons, h c List.mem_cons_self, if_neg Bool.false_ne_true]

theorem trimBlanks_of_forall {cs : List Char} (h : ∀ c ∈ cs, isBlank c = false) :
    trimBlanks cs = cs := by
  have hreverse : ∀ c ∈ cs.reverse, isBlank c = false := fun c hc => h c (List.mem_reverse.1 hc)
  rw [trimBlanks, trimStart_of_forall h, trimStart_of_forall hreverse, List.reverse_reverse]

theorem clampAmount_toInt (n : Int32) : clampAmount n.toInt = n.toInt := by
  have hmin := n.le_toInt
  have hmax := n.toInt_lt
  simp only [clampAmount, minAmount, maxAmount]
  omega

/-- A number of 32 bits is read back whatever relative amount it is part of. -/
theorem fraction_ofText {s : String} {n : Int32} (hs : s.toList = (toString n).toList ++ rest)
    (hstop : ∀ c ∈ rest.head?, isAsciiDigit c = false) (hblank : ∀ c ∈ rest, isBlank c = false) :
    Fraction.ofText s = ⟨n.toInt, denominatorOf rest⟩ := by
  have htext : trimBlanks s.toList = (toString n.toInt).toList ++ rest := by
    rw [hs]
    refine trimBlanks_of_forall fun c hc => ?_
    rcases List.mem_append.1 hc with hc | hc
    · exact isBlank_of_mem_toString hc
    · exact hblank c hc
  have hnumeral := numeral_toString n.toInt hstop
  rw [Fraction.ofText, htext, hnumeral.leadingInteger, clampAmount_toInt]

theorem denominatorOf_slash (d : Int32) :
    denominatorOf ('/' :: (toString d).toList) = d.toInt := by
  have hnumeral : Numeral ((toString d.toInt).toList ++ []) d.toInt [] :=
    numeral_toString d.toInt (by rintro _ ⟨⟩)
  rw [List.append_nil] at hnumeral
  show (leadingInteger (toString d.toInt).toList).1 = _
  rw [hnumeral.leadingInteger, clampAmount_toInt]

end Written

namespace Value

/-- Behind the blanks that a text starts with, its integer is the longest number that stands there,
of any size, clamped to 32 bits with a sign. Relative and absolute amounts of numbers with 32 bits
are read back exactly. -/
theorem integer_saturates :
    (∀ s : String, ∃ blanks front n, s.toList = blanks ++ trimStart s.toList ∧
      (∀ c ∈ blanks, isBlank c = true) ∧ (∀ c ∈ (trimStart s.toList).head?, isBlank c = false) ∧
      LongestNumber (trimStart s.toList) front n ∧
      (text s).integer = .ok (max (-2147483648) (min n 2147483647))) ∧
    ∀ n d : Int32,
      (text (toString n ++ "/" ++ toString d)).fraction = .ok ⟨n.toInt, d.toInt⟩ ∧
      (text (toString n ++ "%")).fraction = .ok ⟨n.toInt, 100⟩ ∧
      (text (toString n)).fraction = .ok ⟨n.toInt, 0⟩ := by
  constructor
  · intro s
    obtain ⟨n, rest, hnumeral⟩ := exists_numeral s.toList
    obtain ⟨front, -, hlongest⟩ := hnumeral.trimStart.longest
    obtain ⟨blanks, hs, hblanks, hstart⟩ := exists_blanks s.toList
    refine ⟨blanks, front, n, hs, hblanks, hstart, hlongest, congrArg Except.ok ?_⟩
    rw [amountOf, hnumeral.leadingInteger]
    rfl
  · intro n d
    refine ⟨congrArg Except.ok ?_, congrArg Except.ok ?_, congrArg Except.ok ?_⟩
    · have hs : (toString n ++ "/" ++ toString d).toList =
          (toString n).toList ++ '/' :: (toString d).toList := by
        simp [String.toList_append]
      have hblank : ∀ c ∈ '/' :: (toString d).toList, isBlank c = false :=
        List.forall_mem_cons.2 ⟨rfl, fun c hc => isBlank_of_mem_toString hc⟩
      rw [fraction_ofText hs (by rintro _ ⟨⟩; rfl) hblank, denominatorOf_slash]
    · have hs : (toString n ++ "%").toList = (toString n).toList ++ ['%'] :=
        String.toList_append
      rw [fraction_ofText hs (by rintro _ ⟨⟩; rfl) (List.forall_mem_singleton.2 rfl)]
      rfl
    · have hs : (toString n).toList = (toString n).toList ++ [] := (List.append_nil _).symm
      rw [fraction_ofText hs (by rintro _ ⟨⟩) (List.forall_mem_nil _)]
      rfl

/-- Zeros in front do not count, and numbers beyond 32 and beyond 64 bits saturate on their side. -/
example :
    (text " +0000000000000000000000000042px").integer = .ok 42 ∧
    (text "-2147483648").integer = .ok (-2147483648) ∧
    (text "2147483648").integer = .ok 2147483647 ∧
    (text "9223372036854775808").integer = .ok 2147483647 ∧
    (text "-9223372036854775809").integer = .ok (-2147483648) ∧ (text "-").integer = .ok 0 := by
  decide

end Value

end WindowActions
