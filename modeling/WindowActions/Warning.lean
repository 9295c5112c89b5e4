import WindowActions.Text.Quoted

/-!
# Warnings

What is wrong with a program or a run without stopping it. Names of registered actions and filters
are shown in their registered spelling, all others as they were written.
-/

namespace WindowActions

inductive Warning where
  | unknownAction (name : String)
  | invalidOptions (action : String)
  | unknownFilter (name : String)
  /-- A filter does not accept its value, which is given as it is shown. -/
  | invalidValue (filter : String) (shown : String)
  | valueRequired (filter : String)
  | textExpected (filter : String)
  | invalidPattern (filter : String) (pattern : String)
  | grabRefused (action : String)
  | actionTaken (name : String)
  | filterTaken (name : String)
  /-- A command line holds a zero character, so no shell can be given it. -/
  | commandHasZero (command : String)
deriving DecidableEq, Repr

def Warning.message : Warning → String
  | unknownAction name => "ignoring unknown action " ++ quoted name
  | invalidOptions action => "ignoring action " ++ quoted action ++ ": invalid options"
  | unknownFilter name => "ignoring unknown filter " ++ quoted name
  | invalidValue filter shown =>
    "ignoring filter " ++ quoted filter ++ ": invalid value " ++ shown
  | valueRequired filter => "filter " ++ quoted filter ++ " requires a value"
  | textExpected filter => "filter " ++ quoted filter ++ " expects a text value"
  | invalidPattern filter pattern => "invalid " ++ filter ++ " regex " ++ quoted pattern
  | grabRefused action =>
    "not starting interactive " ++ quoted action ++ ": unable to grab keyboard"
  | actionTaken name => "ignoring builtin action " ++ quoted name ++ ": name is already registered"
  | filterTaken name => "ignoring builtin filter " ++ quoted name ++ ": name is already registered"
  | commandHasZero command =>
    "unable to execute " ++ quoted command ++ ": nul byte found in provided data"

end WindowActions
