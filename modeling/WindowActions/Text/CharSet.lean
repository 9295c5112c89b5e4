import WindowActions.Text.CodeRange

/-!
# Sets of characters

A set of characters is kept as the ranges of its code points. The ranges ascend, between any two
of them a code point is missing, and no surrogate lies in one, so each set has one form. Each
operation on sets is described by what it does to `contains`.
-/

namespace WindowActions

structure CharSet where
  /-- The ranges of the code points in it, in ascending order. -/
  ranges : CodeRanges
  apart : ranges.Apart
deriving DecidableEq

namespace CharSet

/-- The characters in some ranges of code points, which can overlap and come in any order. -/
def ofRanges (ranges : CodeRanges) : CharSet where
  ranges := ranges.join.flatMap CodeRanges.scalars
  apart := CodeRanges.apart_flatMap_scalars (CodeRanges.gap_join ranges)

def nothing : CharSet := .ofRanges []

def single (c : Char) : CharSet := .ofRanges [(c.toNat, c.toNat)]

def contains (s : CharSet) (c : Char) : Bool := s.ranges.contains c

/-- The only character of a set, if it has exactly one. -/
def only? (s : CharSet) : Option Char :=
  match s.ranges with
  | [(first, last)] => if first = last then some (Char.ofNat first) else none
  | _ => none

/-- The characters that do not belong to a set. -/
def complement (s : CharSet) : CharSet where
  ranges := (CodeRanges.gaps 0 s.ranges).flatMap CodeRanges.scalars
  apart := CodeRanges.apart_flatMap_scalars (CodeRanges.gap_gaps s.apart)

/-- The complement of a set, if it is asked for. -/
def negateIf (negated : Bool) (s : CharSet) : CharSet := if negated then s.complement else s

def unionAll (sets : List CharSet) : CharSet := .ofRanges (sets.flatMap (·.ranges))

def union (a b : CharSet) : CharSet := .ofRanges (a.ranges ++ b.ranges)

def intersection (a b : CharSet) : CharSet := (a.complement.union b.complement).complement

/-- The characters of the first set that do not belong to the second. -/
def difference (a b : CharSet) : CharSet := (a.complement.union b).complement

/-- The characters that belong to one of two sets but not to both. -/
def symmetricDifference (a b : CharSet) : CharSet := (a.union b).difference (a.intersection b)

/-- Whether all characters of a set are ASCII characters. -/
def isAscii (s : CharSet) : Bool := s.ranges.all fun range => range.2 ≤ 0x7F

/-- A character is no surrogate, and none comes behind the last code point. -/
theorem isScalar (c : Char) :
    (c.toNat < 0xD800 ∨ 0xDFFF < c.toNat) ∧ c.toNat ≤ CodeRanges.lastCode := by
  have := c.valid
  simp only [UInt32.isValidChar, Nat.isValidChar] at this
  simp only [Char.toNat, CodeRanges.lastCode]
  omega

theorem contains_ofRanges (ranges : CodeRanges) (c : Char) :
    (ofRanges ranges).contains c = ranges.contains c :=
  (CodeRanges.covers_flatMap_scalars _ (isScalar c).1).trans (CodeRanges.covers_join ..)

@[simp] theorem contains_nothing (c : Char) : nothing.contains c = false :=
  contains_ofRanges [] c

theorem contains_single (a c : Char) : (single a).contains c = (c == a) := by
  rw [single, contains_ofRanges, Bool.eq_iff_iff]
  simp [CodeRanges.contains, ← Char.toNat_inj]
  omega

theorem contains_complement (s : CharSet) (c : Char) : s.complement.contains c = !s.contains c := by
  refine (CodeRanges.covers_flatMap_scalars _ (isScalar c).1).trans ?_
  rw [CodeRanges.covers_gaps s.apart (by simp) (isScalar c).2]
  simp [contains, CodeRanges.contains]

theorem contains_unionAll (sets : List CharSet) (c : Char) :
    (unionAll sets).contains c = sets.any (·.contains c) := by
  rw [unionAll, contains_ofRanges, CodeRanges.contains, CodeRanges.covers, List.any_flatMap]
  rfl

theorem contains_union (a b : CharSet) (c : Char) :
    (a.union b).contains c = (a.contains c || b.contains c) := by
  rw [union, contains_ofRanges]
  exact CodeRanges.covers_append ..

theorem contains_intersection (a b : CharSet) (c : Char) :
    (a.intersection b).contains c = (a.contains c && b.contains c) := by
  simp [intersection, contains_complement, contains_union]

theorem contains_difference (a b : CharSet) (c : Char) :
    (a.difference b).contains c = (a.contains c && !b.contains c) := by
  simp [difference, contains_complement, contains_union]

theorem contains_symmetricDifference (a b : CharSet) (c : Char) :
    (a.symmetricDifference b).contains c = (a.contains c != b.contains c) := by
  rw [symmetricDifference, contains_difference, contains_union, contains_intersection]
  cases a.contains c <;> cases b.contains c <;> rfl

end CharSet

end WindowActions
