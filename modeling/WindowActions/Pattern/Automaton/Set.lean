import WindowActions.Pattern.Automaton.Basic
import WindowActions.Text.Utf8

/-!
# States for sets of characters

An automaton reads bytes. For a set of characters it gets states that read the byte sequences of
its characters. States that lead to the same places are shared as long as they can be found: they
are kept in a table with a fixed number of slots, and a slot forgets its state when another one is
put into it.

Forward, the sequences form a tree from their first bytes on, and the state of a node has a link
for each byte range. Backward, each byte range has a state of its own, and the sequences share
their first bytes, which are read last.
-/

namespace WindowActions

/-- What a state leads to: the byte ranges that it reads and the states behind them. -/
abbrev StateKey := List Nat

/-- The number from which the slot of a key is found. One part of the key after the other is mixed
in by an exclusive or and spread by a multiplication. -/
def StateKey.hash (key : StateKey) : UInt64 :=
  key.foldl (fun h n => (h ^^^ UInt64.ofNat n) * 1099511628211) 14695981039346656037

/-- An automaton that is being built, and the states that can be shared. -/
structure SharedStates where
  size : AutomatonSize
  /-- The slots, each with a key and the state for it. -/
  slots : Array (Option (StateKey × Nat))

namespace SharedStates

/-- Begins to share states, with a given number of slots. -/
def start (size : AutomatonSize) (slots : Nat) : SharedStates := ⟨size, .replicate slots none⟩

/-- The state for a key: the one that its slot remembers, or else a new one, with bytes for its
links. -/
def state (s : SharedStates) (key : StateKey) (links : Nat) : Nat × SharedStates :=
  let slot := key.hash.toNat % s.slots.size
  let known := (s.slots[slot]?.join).filter (·.1 = key)
  match known with
  | some (_, state) => (state, s)
  | none =>
    let ⟨size, slots⟩ := s
    (size.states, ⟨size.add 1 links, slots.setIfInBounds slot (some (key, size.states))⟩)

/-- The state from which the given sequences, of at most `length` bytes, lead to the state
`target`. The sequences ascend. -/
def node (s : SharedStates) (target : Nat) : (length : Nat) → List ByteSequence → Nat × SharedStates
  | 0, _ | _, [] :: _ => (target, s)
  | length + 1, sequences =>
    let groups := sequences.splitBy fun a b => a.head? = b.head?
    let (key, s) := groups.foldl (fun (key, s) group =>
      match group.head?.bind List.head? with
      | some (first, last) =>
        let (next, s) := node s target length (group.map List.tail)
        (key ++ [first, last, next], s)
      | none => (key, s)) ([], s)
    s.state key (8 * groups.length)

/-- The state from which a sequence is read backward to the state `target`. -/
def chain (s : SharedStates) (target : Nat) (sequence : ByteSequence) : Nat × SharedStates :=
  sequence.foldl (fun (next, s) range => s.state [next, range.1, range.2] 0) (target, s)

end SharedStates

namespace AutomatonSize

/-- Adds the states that read a character of a set. The states for ASCII characters need not be
shared. -/
def addSet (direction : ReadingDirection) (set : CharSet) (s : AutomatonSize) : AutomatonSize :=
  if set.isAscii then s.add 2 (8 * set.ranges.length)
  else
    let sequences := set.byteSequences
    match direction with
    | .forward =>
      let shared := SharedStates.start (s.add 1 0) 10000
      (shared.node s.states 5 sequences).2.size
    | .backward =>
      let shared := SharedStates.start (s.add 2 (4 * sequences.length)) 1000
      (sequences.foldl (fun shared sequence => (shared.chain (s.states + 1) sequence).2) shared).size

end AutomatonSize

end WindowActions
