import WindowActions.Pattern.Assertion

/-!
# Patterns

A pattern describes a stretch of a text. How much of a text a stretch takes, and whether it has to
begin or end with the text, can be read off the pattern.
-/

namespace WindowActions

/-- A description of stretches of a text. -/
inductive Pattern where
  | empty
  /-- The characters of a list, one behind the other. -/
  | literal (chars : List Char)
  | set (set : CharSet)
  /-- The empty stretch at a place where a condition holds. -/
  | assertion (assertion : Assertion)
  /-- From `least` to `most` stretches one behind the other. A greedy repetition prefers many of
  them; what can be matched does not depend on it. -/
  | repetition (pattern : Pattern) (least : Nat) (most : Option Nat) (greedy : Bool)
  /-- A stretch that is remembered under a number. -/
  | capture (index : Nat) (pattern : Pattern)
  | concatenation (patterns : List Pattern)
  | alternation (patterns : List Pattern)

/-- The end of a text at which reading begins. -/
inductive ReadingDirection where
  | forward | backward
deriving DecidableEq, Repr

/-- The condition that holds only where reading begins. -/
def ReadingDirection.edge : ReadingDirection → Assertion
  | forward => .textStart
  | backward => .textEnd

namespace Pattern

mutual

/-- Whether two patterns are put together alike. -/
def same : Pattern → Pattern → Bool
  | .empty, .empty => true
  | .literal cs, .literal ds => cs = ds
  | .set s, .set t => s = t
  | .assertion a, .assertion b => a = b
  | .repetition p least most greedy, .repetition q least' most' greedy' =>
    p.same q && least = least' && most = most' && greedy = greedy'
  | .capture i p, .capture j q => i = j && p.same q
  | .concatenation ps, .concatenation qs | .alternation ps, .alternation qs => allSame ps qs
  | _, _ => false

/-- Whether the patterns of two lists are put together alike, one by one. -/
def allSame : List Pattern → List Pattern → Bool
  | [], [] => true
  | p :: ps, q :: qs => p.same q && allSame ps qs
  | _, _ => false

end

mutual

/-- Whether every stretch that fits is empty. -/
def staysInPlace : Pattern → Bool
  | .empty | .assertion _ => true
  | .literal cs => cs.isEmpty
  | .set _ => false
  | .repetition p _ most _ => p.staysInPlace && most.isSome
  | .capture _ p => p.staysInPlace
  | .concatenation ps | .alternation ps => allStayInPlace ps

/-- Whether every stretch that fits one of some patterns is empty. -/
def allStayInPlace : List Pattern → Bool
  | [] => true
  | p :: ps => p.staysInPlace && allStayInPlace ps

end

mutual

/-- The length that every stretch has at least. There is none if the pattern needs a character of
the empty set in some place, even if other stretches fit. -/
def leastLength : Pattern → Option Nat
  | .empty | .assertion _ => some 0
  | .literal cs => some cs.length
  | .set s => if s.ranges.isEmpty then none else some 1
  | .repetition p least _ _ => p.leastLength.map (· * least)
  | .capture _ p => p.leastLength
  | .concatenation ps => totalLeastLength ps
  | .alternation ps => smallestLeastLength ps

/-- The sum of the least lengths of some patterns. -/
def totalLeastLength : List Pattern → Option Nat
  | [] => some 0
  | p :: ps => do return (← p.leastLength) + (← totalLeastLength ps)

/-- The smallest of the least lengths of some patterns. -/
def smallestLeastLength : List Pattern → Option Nat
  | [] => none
  | [p] => p.leastLength
  | p :: ps => do return min (← p.leastLength) (← smallestLeastLength ps)

end

/-- Whether every stretch is known to take a character. -/
def takesCharacter (p : Pattern) : Bool := p.leastLength.any (0 < ·)

mutual

/-- Whether a stretch can begin only where reading begins. -/
def isAnchored (direction : ReadingDirection) : Pattern → Bool
  | .empty | .literal _ | .set _ => false
  | .assertion a => a = direction.edge
  | .repetition p least _ _ => 0 < least && p.isAnchored direction
  | .capture _ p => p.isAnchored direction
  | .concatenation ps => beginsAnchored direction ps
  | .alternation ps => allAnchored direction ps

/-- Whether the first of some patterns to be read that takes characters, or one before it, can
begin only where reading begins. -/
def beginsAnchored (direction : ReadingDirection) : List Pattern → Bool
  | [] => false
  | p :: ps =>
    match direction with
    | .forward => p.isAnchored .forward || (p.staysInPlace && beginsAnchored .forward ps)
    | .backward => beginsAnchored .backward ps || (allStayInPlace ps && p.isAnchored .backward)

/-- Whether each of some patterns can begin only where reading begins. -/
def allAnchored (direction : ReadingDirection) : List Pattern → Bool
  | [] => true
  | p :: ps => p.isAnchored direction && allAnchored direction ps

end

end Pattern

end WindowActions
