import WindowActions.Token.Basic

/-!
# Errors in programs

Every program that is rejected is rejected at one place for one reason. The wording of all reasons
is `SourceFault.message`.
-/

namespace WindowActions

inductive Expectation where
  | action | name | value | rightBracket | rightBrace
deriving DecidableEq, Repr

def Expectation.describe : Expectation → String
  | action => "action"
  | name => "name"
  | value => "value"
  | rightBracket => "']'"
  | rightBrace => "'\x7d'"

inductive SourceFault where
  /-- A closing parenthesis that closes nothing. -/
  | strayParenthesis
  /-- A backslash outside of text that does not end its line. -/
  | brokenContinuation
  | unterminatedText
  /-- A token, or the end of the program, in the place of something else. -/
  | unexpected (wanted : Expectation) (found : Option TokenKind)
  /-- More levels of blocks, branches and list values than are allowed. -/
  | nestingTooDeep
deriving DecidableEq, Repr

def SourceFault.message : SourceFault → String
  | strayParenthesis => "unexpected ')'"
  | brokenContinuation => "expected end of line after '\\'"
  | unterminatedText => "unterminated string"
  | unexpected wanted found =>
    "expected " ++ wanted.describe ++ ", found " ++
      match found with
      | some kind => kind.describe
      | none => endDescription
  | nestingTooDeep => "nesting too deep"

structure SourceError where
  pos : Position
  fault : SourceFault
deriving DecidableEq, Repr

def SourceError.message (e : SourceError) : String :=
  toString e.pos.line ++ ":" ++ toString e.pos.column ++ ": " ++ e.fault.message

end WindowActions
