import WindowActions.Pattern.Basic

/-!
# Matching patterns

A set of places in a text is kept as the bits of a number: bit `i` is set if the place in front of
the character with index `i` belongs to it. A pattern is first laid onto the text, which tells
where its sets and conditions hold. It then takes the set of the places where stretches begin to
the set of the places where they can end.

No turn of a repetition goes back, and one that stays in place can be left out or repeated, so
after as many turns as the text has places nothing changes any more. Turns that can be left out
need only be taken from places that were not reached before.
-/

namespace WindowActions

inductive Track where
  /-- A character, at one of some places. -/
  | step (places : Nat)
  /-- No character, at one of some places. -/
  | stay (places : Nat)
  | repetition (track : Track) (least : Nat) (most : Option Nat)
  | sequence (tracks : List Track)
  | choice (tracks : List Track)

/-- The places of a text, from the one in front of it to the one behind it, that pass a test. -/
def placesWhere (text : Array Char) (test : Nat → Bool) : Nat :=
  (List.range (text.size + 1)).foldl (fun places i =>
    if test i then places ||| (1 <<< i) else places) 0

/-- A text, and for each character in it the places in front of that character. -/
structure PlacedText where
  chars : Array Char
  places : List (Char × Nat)

namespace PlacedText

/-- A text with the places of its characters. -/
def ofString (text : String) : PlacedText :=
  let chars := text.toList.toArray
  let places := text.toList.eraseDups.map fun c => (c, placesWhere chars (chars[·]? == some c))
  ⟨chars, places⟩

def size (t : PlacedText) : Nat := t.chars.size + 1

/-- The places in front of a character. -/
def before (t : PlacedText) (c : Char) : Nat := (t.places.lookup c).getD 0

/-- The places in front of the characters of a set. -/
def beforeAny (t : PlacedText) (s : CharSet) : Nat :=
  t.places.foldl (fun places (c, more) => if s.contains c then places ||| more else places) 0

/-- The places where a condition holds. -/
def placesOf (t : PlacedText) (assertion : Assertion) : Nat :=
  placesWhere t.chars fun i => assertion.holds (if i = 0 then none else t.chars[i - 1]?) t.chars[i]?

end PlacedText

namespace Pattern

mutual

def onText (text : PlacedText) : Pattern → Track
  | .empty => .sequence []
  | .literal cs => .sequence (cs.map fun c => .step (text.before c))
  | .set s => .step (text.beforeAny s)
  | .assertion a => .stay (text.placesOf a)
  | .repetition p least most _ => .repetition (p.onText text) least most
  | .capture _ p => p.onText text
  | .concatenation ps => .sequence (allOnText text ps)
  | .alternation ps => .choice (allOnText text ps)

def allOnText (text : PlacedText) : List Pattern → List Track
  | [] => []
  | p :: ps => p.onText text :: allOnText text ps

end

end Pattern

namespace Track

/-- The places after exactly `turns` turns. -/
def afterExactly (turn : Nat → Nat) : (turns places : Nat) → Nat
  | 0, places => places
  | turns + 1, places =>
    let next := turn places
    if next = places then places else afterExactly turn turns next

theorem afterExactly_of_fixed {turn : Nat → Nat} {places : Nat} (h : turn places = places)
    (turns : Nat) : afterExactly turn turns places = places := by
  cases turns with
  | zero => rfl
  | succ turns => simp [afterExactly, h]

/-- To stop at places that a turn keeps makes no difference. -/
theorem afterExactly_succ (turn : Nat → Nat) (turns places : Nat) :
    afterExactly turn (turns + 1) places = afterExactly turn turns (turn places) := by
  simp only [afterExactly]
  split
  · rename_i h
    rw [h, afterExactly_of_fixed h]
  · rfl

/-- The places after up to `turns` turns from those of the `reached` places that are new. -/
def afterUpTo (turn : Nat → Nat) : (turns reached new : Nat) → Nat
  | 0, reached, _ => reached
  | turns + 1, reached, new =>
    let all := reached ||| turn new
    if all = reached then reached else afterUpTo turn turns all (all ^^^ reached)

mutual

/-- The places where stretches that begin at some places can end. After `enough` turns nothing
changes any more. -/
def after (enough : Nat) : Track → (places : Nat) → Nat
  | .step possible, places => (places &&& possible) <<< 1
  | .stay possible, places => places &&& possible
  | .repetition t least most, places =>
    let further :=
      match most with
      | none => enough
      | some most => min (most - least) enough
    let reached := afterExactly (t.after enough) (min least enough) places
    afterUpTo (t.after enough) further reached reached
  | .sequence ts, places => afterAll enough ts places
  | .choice ts, places => afterAny enough ts places

/-- The places after all tracks of a list. -/
def afterAll (enough : Nat) : List Track → (places : Nat) → Nat
  | [], places => places
  | t :: ts, places => afterAll enough ts (t.after enough places)

/-- The places after any track of a list. -/
def afterAny (enough : Nat) : List Track → (places : Nat) → Nat
  | [], _ => 0
  | t :: ts, places => t.after enough places ||| afterAny enough ts places

end

end Track

/-- Whether a stretch of the text fits the pattern. -/
def Pattern.isMatch (p : Pattern) (text : String) : Bool :=
  let text := PlacedText.ofString text
  (p.onText text).after text.size (1 <<< text.size - 1) != 0

end WindowActions
