import WindowActions.Pattern.Automaton.Size
import WindowActions.Pattern.Read
import WindowActions.Pattern.Simplify

/-!
# Limits of patterns

A text that spells a pattern is refused all the same if the pattern nests too deep or if its
automata take too much room.
-/

namespace WindowActions

namespace Pattern

/-- How many levels of a pattern may stand inside one another. -/
def maxDepth : Nat := 250

def parse? (source : String) : Option Pattern := do
  let tree ← PatternTree.ofText? source
  guard (tree.nestsWithin maxDepth)
  let pattern := tree.simplify
  guard pattern.isSmall
  return pattern

end Pattern

end WindowActions
