import WindowActions.Text.WordCharacter

/-!
# Conditions on places

An assertion is a condition on the place between two characters of a text, of which one is missing
at an end of the text.
-/

namespace WindowActions

/-- A condition on a place between two characters. -/
inductive Assertion where
  | textStart
  | textEnd
  | lineStart
  | lineEnd
  /-- The start of a line, which may end in a carriage return and a line feed. -/
  | anyLineStart
  /-- The end of a line, which may end in a carriage return and a line feed. -/
  | anyLineEnd
  /-- A word character on one side and none on the other. -/
  | boundary
  | noBoundary
  | wordStart
  | wordEnd
  | wordStartHalf
  | wordEndHalf
deriving DecidableEq, Repr

namespace Assertion

def isWord (c : Option Char) : Bool := c.any CharSet.words.contains

/-- Whether a condition holds between two characters, of which one is missing at an end of the
text. -/
def holds (before after : Option Char) : Assertion → Bool
  | textStart => before.isNone
  | textEnd => after.isNone
  | lineStart => before.isNone || before == some '\n'
  | lineEnd => after.isNone || after == some '\n'
  | anyLineStart =>
    before.isNone || before == some '\n' || (before == some '\r' && after != some '\n')
  | anyLineEnd =>
    after.isNone || after == some '\r' || (after == some '\n' && before != some '\r')
  | boundary => isWord before != isWord after
  | noBoundary => isWord before == isWord after
  | wordStart => !isWord before && isWord after
  | wordEnd => isWord before && !isWord after
  | wordStartHalf => !isWord before
  | wordEndHalf => !isWord after

end Assertion

end WindowActions
