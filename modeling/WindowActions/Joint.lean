/-!
# Joining tests

Tests stand in a chain. A test that is joined by `and` narrows down the one behind it; one that is
joined by `or` closes a group, and the groups of a chain add up.
-/

namespace WindowActions

/-- How a test is joined to the one behind it. In the last test of a chain it means nothing. -/
inductive Joint where
  | and | or
deriving DecidableEq, Repr

end WindowActions
