import WindowActions.Pattern.Assertion

/-!
# Patterns as they are written

A tree keeps how a pattern is put together: which parts stand in brackets or groups, and what a
repetition repeats. Only so many of its levels may stand inside one another.
-/

namespace WindowActions

inductive PatternTree where
  | empty
  | flags
  /-- A character or a class, and how many levels of brackets and operators write it. -/
  | set (set : CharSet) (levels : Nat)
  | assertion (assertion : Assertion)
  /-- From `least` to `most` turns, of which a greedy repetition prefers many. -/
  | repetition (tree : PatternTree) (least : Nat) (most : Option Nat) (greedy : Bool)
  | group (tree : PatternTree)
  /-- Parentheses that count, with their number. -/
  | capture (index : Nat) (tree : PatternTree)
  | concatenation (trees : List PatternTree)
  | alternation (trees : List PatternTree)

namespace PatternTree

def concat : List PatternTree → PatternTree
  | [] => .empty
  | [t] => t
  | ts => .concatenation ts

/-- Whether a repetition can follow: there has to be something to repeat. -/
def isOperand : PatternTree → Bool
  | .empty | .flags => false
  | _ => true

mutual

/-- Whether at most `limit` levels of a tree stand inside one another. -/
def nestsWithin : (limit : Nat) → PatternTree → Bool
  | _, .empty | _, .flags | _, .assertion _ => true
  | limit, .set _ levels => levels ≤ limit
  | limit, .repetition t _ _ _ | limit, .group t | limit, .capture _ t =>
    0 < limit && t.nestsWithin (limit - 1)
  | limit, .concatenation ts | limit, .alternation ts => 0 < limit && allNestWithin (limit - 1) ts

/-- Whether at most `limit` levels of each tree of a list stand inside one another. -/
def allNestWithin : (limit : Nat) → List PatternTree → Bool
  | _, [] => true
  | limit, t :: ts => t.nestsWithin limit && allNestWithin limit ts

end

end PatternTree

end WindowActions
