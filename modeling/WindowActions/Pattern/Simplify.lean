import WindowActions.Pattern.Basic
import WindowActions.Pattern.Tree

/-!
# Simplifying patterns

The pattern of a tree is built from the leaves up, in its simplest form: neighbouring characters
become one literal, nested concatenations and alternations become flat, alternatives of one
character each become a set, a beginning that all alternatives share is moved in front of them,
and what stays in place is repeated at most once.
-/

namespace WindowActions

namespace Pattern

def ofSet (s : CharSet) : Pattern :=
  match s.only? with
  | some c => .literal [c]
  | none => .set s

/-- The patterns that a pattern has one behind the other. -/
def parts : Pattern → List Pattern
  | .empty => []
  | .concatenation ps => ps
  | p => [p]

/-- Some patterns with neighbouring literals made into one. -/
def joinLiterals : List Pattern → List Pattern
  | [] => []
  | .literal front :: ps =>
    match joinLiterals ps with
    | .literal back :: rest => .literal (front ++ back) :: rest
    | rest => .literal front :: rest
  | p :: ps => p :: joinLiterals ps

def concat (ps : List Pattern) : Pattern :=
  match joinLiterals (ps.flatMap parts) with
  | [] => .empty
  | [p] => p
  | ps => .concatenation ps

/-- From `least` to `most` stretches of a pattern one behind the other. -/
def repeated (p : Pattern) (least : Nat) (most : Option Nat) (greedy : Bool) : Pattern :=
  let least := if p.staysInPlace then min least 1 else least
  let most := if p.staysInPlace then some (min (most.getD 1) 1) else most
  if most = some 0 then .empty
  else if least = 1 ∧ most = some 1 then p
  else .repetition p least most greedy

/-- The patterns between which a pattern gives the choice. -/
def branches : Pattern → List Pattern
  | .alternation ps => ps
  | p => [p]

/-- The set of the only character of a literal. -/
def singleSet? : Pattern → Option CharSet
  | .literal [c] => some (.single c)
  | _ => none

/-- The set of a pattern for one character of it. -/
def set? : Pattern → Option CharSet
  | .set s => some s
  | _ => none

def parts? : Pattern → Option (List Pattern)
  | .concatenation ps => some ps
  | _ => none

/-- The longest beginning that two lists share. -/
def sharedParts : List Pattern → List Pattern → List Pattern
  | p :: ps, q :: qs => if p.same q then p :: sharedParts ps qs else []
  | _, _ => []

mutual

/-- The number of patterns of which a pattern is made. -/
def weight : Pattern → Nat
  | .empty | .literal _ | .set _ | .assertion _ => 1
  | .repetition p _ _ _ | .capture _ p => p.weight + 1
  | .concatenation ps | .alternation ps => totalWeight ps + 1

/-- The number of patterns of which some patterns are made. -/
def totalWeight : List Pattern → Nat
  | [] => 0
  | p :: ps => p.weight + totalWeight ps

end

/-- The choice between some patterns. A shared beginning can be moved to the front at most `fuel`
times. -/
def alternateWithin (fuel : Nat) (ps : List Pattern) : Pattern :=
  match ps.flatMap branches with
  | [] => .set .nothing
  | [p] => p
  | ps =>
    match ps.mapM singleSet? <|> ps.mapM set? with
    | some sets => .ofSet (.unionAll sets)
    | none =>
      match fuel, ps.mapM parts? with
      | fuel + 1, some (first :: others) =>
        match others.foldl sharedParts first with
        | [] => .alternation ps
        | shared =>
          let remainders := (first :: others).map fun parts => concat (parts.drop shared.length)
          concat (shared ++ [alternateWithin fuel remainders])
      | _, _ => .alternation ps

/-- The choice between some patterns. Each shared beginning that is moved to the front makes the
patterns lighter. -/
def alternate (ps : List Pattern) : Pattern := alternateWithin (totalWeight ps) ps

end Pattern

namespace PatternTree

mutual

/-- The simplest form of the pattern that a tree writes. -/
def simplify : PatternTree → Pattern
  | .empty | .flags => .empty
  | .set s _ => .ofSet s
  | .assertion a => .assertion a
  | .repetition t least most greedy => t.simplify.repeated least most greedy
  | .group t => t.simplify
  | .capture index t => .capture index t.simplify
  | .concatenation ts => .concat (simplifyAll ts)
  | .alternation ts => .alternate (simplifyAll ts)

/-- The simplest forms of the patterns that some trees write. -/
def simplifyAll : List PatternTree → List Pattern
  | [] => []
  | t :: ts => t.simplify :: simplifyAll ts

end

end PatternTree

end WindowActions
