/-!
# ASCII case

Names of actions, filters and options are compared without regard to the case of the letters `A`
to `Z`. No other character has a case here, so `É` and `é` stay apart.
-/

namespace WindowActions

/-- The text with `A` to `Z` lowered and every other character kept. -/
def asciiLower (s : String) : String :=
  String.ofList (s.toList.map Char.toLower)

/-- Whether two names differ at most in ASCII case. -/
def sameName (a b : String) : Bool :=
  asciiLower a == asciiLower b

@[simp] theorem toList_asciiLower (s : String) :
    (asciiLower s).toList = s.toList.map Char.toLower := by
  simp [asciiLower]

theorem sameName_iff {a b : String} : sameName a b = true ↔ asciiLower a = asciiLower b := by
  simp [sameName]

end WindowActions
