import WindowActions.Builtin.Filters
import WindowActions.Pattern.Limits
import WindowActions.Pattern.Match

/-!
# The patterns of the program

The program understands patterns as `Pattern` does. There are no classes of characters by a
property, such as `\p{Greek}`, and no switch to bytes: patterns with these are not valid.
-/

namespace WindowActions

instance : PatternEngine where
  test? source := (Pattern.parse? source).map Pattern.isMatch

end WindowActions
