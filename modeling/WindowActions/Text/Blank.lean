import WindowActions.Text.CharSet

/-!
# Blank characters

The twenty-five characters with the property White_Space. They separate words in a program, are
ignored around numbers, and are what `\s` stands for in a pattern.
-/

namespace WindowActions

/-- The code points with the property White_Space, in ascending order. -/
def blankRanges : CodeRanges := [
  (0x09, 0x0D), (0x20, 0x20), (0x85, 0x85), (0xA0, 0xA0), (0x1680, 0x1680), (0x2000, 0x200A),
  (0x2028, 0x2029), (0x202F, 0x202F), (0x205F, 0x205F), (0x3000, 0x3000)]

def isBlank (c : Char) : Bool := blankRanges.contains c

def CharSet.blanks : CharSet := .ofRanges blankRanges

/-- The text without the blanks at its start. -/
def trimStart (cs : List Char) : List Char :=
  cs.dropWhile isBlank

/-- The text without the blanks at its start and at its end. -/
def trimBlanks (cs : List Char) : List Char :=
  (trimStart (trimStart cs).reverse).reverse

@[simp] theorem trimStart_nil : trimStart [] = [] := rfl

theorem trimStart_cons (c : Char) (cs : List Char) :
    trimStart (c :: cs) = if isBlank c then trimStart cs else c :: cs := by
  simp only [trimStart, List.dropWhile_cons]

/-- What is left once everything that passes a test has been dropped starts with something else. -/
theorem eq_false_of_mem_head?_dropWhile {p : Char → Bool} {cs : List Char} {c : Char}
    (h : c ∈ (cs.dropWhile p).head?) : p c = false := by
  have hnot := List.head?_dropWhile_not p cs
  rw [h] at hnot
  simpa using hnot

end WindowActions
