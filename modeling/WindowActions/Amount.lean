import WindowActions.Text.Ascii
import WindowActions.Text.Blank
import WindowActions.Text.Decimal

/-!
# Amounts

Texts that stand for truth values, numbers, parts of a whole and places relative to an edge.
Reading them never fails: what is not there counts as zero or false, and what follows is ignored.
Numbers are read into 64 bits with a sign and then kept within 32 bits; one that is too large or
too small for either becomes the nearest that 32 bits can hold.
-/

namespace WindowActions

def maxAmount : Int := 2147483647

def minAmount : Int := -2147483648

def clampAmount (n : Int) : Int := max minAmount (min n maxAmount)

def maxWide : Int := 9223372036854775807

def minWide : Int := -9223372036854775808

/-- A number with one more digit, if 64 bits can hold it. Behind a minus the digits count down. -/
def pushDigit? (negative : Bool) (n : Int) (c : Char) : Option Int :=
  let next := if negative then n * 10 - digitValue c else n * 10 + digitValue c
  if minWide ≤ next ∧ next ≤ maxWide then some next else none

/-- The number that digits stand for behind a sign, if there are any and 64 bits can hold it. -/
def readWide? (negative : Bool) (digits : List Char) : Option Int :=
  if digits.isEmpty then none else digits.foldlM (pushDigit? negative) 0

/-- The amount that digits stand for behind a sign. -/
def signedAmount (negative : Bool) (digits : List Char) : Int :=
  match readWide? negative digits with
  | some n => clampAmount n
  | none => if digits.isEmpty then 0 else if negative then minAmount else maxAmount

/-- A sign at the start of a text, as whether it is a minus, and the text behind it. -/
def splitSign : List Char → Bool × List Char
  | '-' :: cs => (true, cs)
  | '+' :: cs => (false, cs)
  | cs => (false, cs)

/-- The number that a text starts with, and the text behind it. Blanks and a sign may stand in
front of the digits; without digits the number is zero. -/
def leadingInteger (cs : List Char) : Int × List Char :=
  let (negative, unsigned) := splitSign (trimStart cs)
  (signedAmount negative (unsigned.takeWhile isAsciiDigit), unsigned.dropWhile isAsciiDigit)

/-- The denominator that follows a number: a hundred for a percent sign, the number behind a
slash, and zero for anything else. -/
def denominatorOf : List Char → Int
  | '%' :: _ => 100
  | '/' :: cs => (leadingInteger cs).1
  | _ => 0

def meansYes (s : String) : Bool :=
  sameName s "true" || sameName s "yes" || sameName s "on"

def amountOf (s : String) : Int := (leadingInteger s.toList).1

/-- A part of a whole, or an absolute amount if the denominator is zero. -/
structure Fraction where
  numer : Int
  denom : Int
deriving DecidableEq, Repr

/-- The fraction that a text stands for: `N%`, `N/D` or an absolute `N`. -/
def Fraction.ofText (s : String) : Fraction :=
  let (numer, rest) := leadingInteger (trimBlanks s.toList)
  ⟨numer, denominatorOf rest⟩

/-- A place relative to an edge or to the center of an area. -/
structure GravityCoordinate where
  pos : Int
  /-- The denominator of a relative distance, zero for an absolute one. -/
  denom : Int
  /-- The place is the center, whatever the other fields are. -/
  center : Bool
  /-- The distance counts from the opposite edge. -/
  opposite : Bool
deriving DecidableEq, Repr

/-- The coordinate that a text stands for: `center`, or a distance like a fraction, behind a minus
if it counts from the opposite edge. -/
def GravityCoordinate.ofText (s : String) : GravityCoordinate :=
  let text := trimBlanks s.toList
  if sameName (String.ofList text) "center" then ⟨0, 0, true, false⟩
  else
    let (opposite, unsigned) := splitSign text
    let (pos, rest) := leadingInteger unsigned
    ⟨pos, denominatorOf rest, false, opposite⟩

end WindowActions
