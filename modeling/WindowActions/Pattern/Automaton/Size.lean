import WindowActions.Pattern.Automaton.Set
import WindowActions.Pattern.Automaton.Words

/-!
# Sizes of automata

The automaton of a pattern is put together from those of its parts. A repetition with bounds needs
the part once for each turn. Two automata count: one reads a text from its start and remembers
what is captured, the other one reads it from its end.
-/

namespace WindowActions

/-- The bytes that write some characters. -/
def utf8Bytes (chars : List Char) : List UInt8 := chars.flatMap String.utf8EncodeChar

namespace Pattern

/-- The bytes of a literal in the order in which they are read. -/
def word? (direction : ReadingDirection) : Pattern → Option (List UInt8)
  | .literal cs =>
    some (match direction with
      | .forward => utf8Bytes cs
      | .backward => (utf8Bytes cs).reverse)
  | _ => none

mutual

/-- Adds the states of a pattern to an automaton. A state at the end of a part that can go on in
two ways has a link for what follows the part. -/
def addStates (direction : ReadingDirection) : Pattern → AutomatonSize → AutomatonSize
  | .empty, s | .assertion _, s => s.add 1 0
  | .literal cs, s => s.add (utf8Bytes cs).length 0
  | .set chars, s => s.addSet direction chars
  | .repetition p least most _, s =>
    let turns := AutomatonSize.addTimes (p.addStates direction)
    match most with
    | none =>
      if least = 0 then
        if p.takesCharacter then p.addStates direction (s.add 1 8)
        else (p.addStates direction s).add 3 16
      else (turns least s).add 1 8
    | some most =>
      if least = most then turns least s
      else if least = 0 ∧ most = 1 then (p.addStates direction (s.add 1 0)).add 1 8
      else
        let s := if least = 0 then s.add 1 0 else turns least s
        AutomatonSize.addTimes (fun s => p.addStates direction (s.add 1 8)) (most - least)
          (s.add 1 0)
  | .capture _ p, s =>
    match direction with
    | .forward => (p.addStates .forward (s.add 1 0)).add 1 0
    | .backward => p.addStates .backward s
  | .concatenation ps, s =>
    match direction with
    | .forward => addInOrder .forward ps s
    | .backward => addFromLast .backward ps s
  | .alternation ps, s =>
    match ps.mapM (word? direction) with
    | some words => s.addWords words
    | none => addChoice direction ps s

/-- Adds the states of some patterns, those of the first one first. -/
def addInOrder (direction : ReadingDirection) : List Pattern → AutomatonSize → AutomatonSize
  | [], s => s
  | p :: ps, s => addInOrder direction ps (p.addStates direction s)

/-- Adds the states of some patterns, those of the last one first. -/
def addFromLast (direction : ReadingDirection) : List Pattern → AutomatonSize → AutomatonSize
  | [], s => s
  | p :: ps, s => p.addStates direction (addFromLast direction ps s)

/-- Adds the states of a choice between some patterns, and those at which it parts and ends. -/
def addChoice (direction : ReadingDirection) : List Pattern → AutomatonSize → AutomatonSize
  | [], s => s
  | [p], s => p.addStates direction s
  | p :: q :: ps, s =>
    addInOrder direction ps
      ((q.addStates direction (p.addStates direction s)).add 2 (4 * (ps.length + 2)))

end

/-- The size of the automaton that looks for a stretch of a text. Unless the stretch can begin
only where reading begins, the automaton can skip characters in front of it. -/
def automatonSize (direction : ReadingDirection) (p : Pattern) : AutomatonSize :=
  let start : AutomatonSize := if p.isAnchored direction then ⟨1, 0⟩ else ⟨3, 16⟩
  match direction with
  | .forward => (p.addStates .forward (start.add 1 0)).add 2 0
  | .backward => (p.addStates .backward start).add 1 0

/-- Whether both automata of a pattern take no more room than they may. -/
def isSmall (p : Pattern) : Bool :=
  (p.automatonSize .backward).fits && (p.automatonSize .forward).fits

end Pattern

end WindowActions
