import WindowActions.Pattern.Automaton.Basic

/-!
# States for a choice of words

An automaton reads a choice of words along the tree of their beginnings, so that words share
states as long as they begin alike. A node of the tree lists the bytes that come next. Where a
word ends, the list is closed and another one is begun for the words behind it, so that what is
listed first is tried first.
-/

namespace WindowActions

namespace AutomatonSize

/-- Adds the states for the node of a tree at which the given words, of less than `length` bytes,
are still to be read. A node that only ends words needs none. -/
def addNode : (length : Nat) → List (List UInt8) → AutomatonSize → AutomatonSize
  | 0, _, s => s
  | length + 1, words, s =>
    if words.all List.isEmpty then s
    else
      -- An end with nothing but ends in front of it closes no further list.
      let words := if words.head? = some [] then [] :: words.dropWhile List.isEmpty else words
      let lists := (words.splitOnP List.isEmpty).filter fun list => !list.isEmpty
      let s := lists.foldl (fun s list =>
        let bytes := (list.filterMap List.head?).eraseDups
        let s := bytes.foldl (fun s byte =>
          addNode length ((list.filter (·.head? = some byte)).map List.tail) s) s
        s.add 1 (if bytes.length = 1 then 0 else 8 * bytes.length)) s
      s.add 1 (4 * (lists.length + words.countP List.isEmpty))

/-- Adds the states for a choice of words. -/
def addWords (words : List (List UInt8)) (s : AutomatonSize) : AutomatonSize :=
  addNode ((words.map List.length).foldl max 0 + 1) words (s.add 1 0)

end AutomatonSize

end WindowActions
