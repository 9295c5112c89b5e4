import WindowActions.Pattern.Basic

/-!
# Room for automata

Patterns are matched by automata, which take room: the same for each state, and more for the links
that lead from a state to many others. A pattern whose automata take too much is refused, so it
matters exactly how many states each part of a pattern adds.
-/

namespace WindowActions

/-- How much of an automaton has been built. -/
structure AutomatonSize where
  /-- The number of states, which are numbered from 0. -/
  states : Nat := 0
  /-- The number of bytes for links outside the states. -/
  links : Nat := 0
deriving DecidableEq, Repr

namespace AutomatonSize

/-- Adds states, and bytes for their links. -/
def add (s : AutomatonSize) (states links : Nat) : AutomatonSize :=
  ⟨s.states + states, s.links + links⟩

/-- The number of bytes that the automaton takes. -/
def bytes (s : AutomatonSize) : Nat := 32 * s.states + s.links

theorem bytes_add (s : AutomatonSize) (states links : Nat) :
    (s.add states links).bytes = s.bytes + 32 * states + links := by
  simp only [bytes, add]
  omega

/-- The number of bytes that an automaton may take. -/
def maxBytes : Nat := 10 * 1024 * 1024

/-- Whether the automaton takes no more bytes than it may. -/
def fits (s : AutomatonSize) : Bool := s.bytes ≤ maxBytes

/-- Adds the same part `count` times. What is too big already stays as it is. -/
def addTimes (part : AutomatonSize → AutomatonSize) : (count : Nat) → AutomatonSize → AutomatonSize
  | 0, s => s
  | count + 1, s => if s.fits then addTimes part count (part s) else s

end AutomatonSize

end WindowActions
