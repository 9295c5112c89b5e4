import WindowActions.Text.Decimal

/-!
# Numbers within the reach of doubles

A JSON number is refused when it is too large for a double, even where its value is not needed.
The digits are collected into a significand of 64 bits and a power of ten. Digits that no longer
fit are dropped, and the ones among them that stand in front of the point each count as a factor
of ten. The number is too large if the product of the significand and the power, both rounded to
doubles, is.
-/

namespace WindowActions

/-- The least number that does not fit a word of 64 bits. -/
def wordLimit : Nat := 0x10000000000000000

/-- The nearest number with 53 significant bits, the even one of two. -/
def roundToDouble (n : Nat) : Nat :=
  if n < 0x20000000000000 then n
  else
    let spare := n.log2 - 52
    let kept := n >>> spare
    let lost := n - (kept <<< spare)
    let half := 1 <<< (spare - 1)
    let up := if lost > half ∨ (lost = half ∧ kept % 2 = 1) then 1 else 0
    (kept + up) <<< spare

/-- The least number that rounds to infinity. -/
def doubleLimit : Nat := (1 <<< 1024) - (1 <<< 970)

/-- Whether `significand * 10 ^ exponent` is beyond the largest double. -/
def exceedsDouble (significand : Nat) (exponent : Int) : Bool :=
  match exponent with
  | .ofNat e =>
    significand != 0 &&
      (e > 308 || roundToDouble significand * roundToDouble (Nat.pow 10 e) ≥ doubleLimit)
  | .negSucc _ => false

/-- The significand and the power of ten with the digits in front of the point. A digit that no
longer fits counts as a factor of ten, and so do all digits behind it. -/
def collectWhole (significand : Nat) : List Char → Nat × Int
  | [] => (significand, 0)
  | digit :: digits =>
    if significand * 10 + digitValue digit < wordLimit then
      collectWhole (significand * 10 + digitValue digit) digits
    else (significand, digits.length + 1)

/-- The significand and the power of ten with the digits behind the point. Digits behind one that
no longer fits are dropped. -/
def collectFraction (significand : Nat) (exponent : Int) : List Char → Nat × Int
  | [] => (significand, exponent)
  | digit :: digits =>
    if significand * 10 + digitValue digit < wordLimit then
      collectFraction (significand * 10 + digitValue digit) (exponent - 1) digits
    else (significand, exponent)

/-- Whether a number with these digits in front of and behind the point, times this power of ten,
is too large for a double. -/
def tooLarge (whole fraction : List Char) (power : Int) : Bool :=
  let (significand, exponent) := collectWhole 0 whole
  let (significand, exponent) := collectFraction significand exponent fraction
  exceedsDouble significand (exponent + power)

end WindowActions
