import WindowActions.ActionList.Same
import WindowActions.Main
import WindowActions.Proofs.Session.Journal
import WindowActions.Proofs.Session.Passage
import WindowActions.Proofs.Session.Calls
import WindowActions.Proofs.Session.Bracket
import WindowActions.Proofs.Program.Branches
import WindowActions.Proofs.Program.Meaning
import WindowActions.Proofs.Selection.Chain
import WindowActions.Proofs.Session.Keyboard
import WindowActions.Proofs.Membership.Ideal
import WindowActions.Proofs.Membership.Pruned
import WindowActions.Proofs.Selection.Within
import WindowActions.Proofs.Selection.Nested
import WindowActions.Proofs.Session.Deed
import WindowActions.Proofs.Builtin.Actions
import WindowActions.Proofs.Builtin.Cycles
import WindowActions.Proofs.Builtin.Confined
import WindowActions.Proofs.Builtin.Exclusive
import WindowActions.Proofs.Builtin.Icons
import WindowActions.Proofs.Builtin.Programs
import WindowActions.Proofs.Client.Twins
import WindowActions.Proofs.Selection.Twins
import WindowActions.Proofs.Session.Lockstep
import WindowActions.Proofs.Builtin.Filters
import WindowActions.Proofs.Builtin.Takeover
import WindowActions.Proofs.Builtin.Lockstep
import WindowActions.Proofs.Builtin.Memory
import WindowActions.Proofs.Program.Alike
import WindowActions.Proofs.Program.Concat
import WindowActions.Proofs.Client.Snapshot
import WindowActions.Proofs.Program.Without
import WindowActions.Proofs.ActionList.Congruence
import WindowActions.Proofs.Builtin.Restored
import WindowActions.Proofs.Builtin.Visits
import WindowActions.Proofs.Program.Rejected
import WindowActions.Proofs.Token.Written
import WindowActions.Proofs.Selection.Directions
import WindowActions.Proofs.Text.Digits
import WindowActions.Proofs.Amount.Numeral
import WindowActions.Proofs.Amount.Relative
import WindowActions.Proofs.Selection.Desktop
import WindowActions.Proofs.Program.LineEnds
import WindowActions.Proofs.Builtin.Immediate
import WindowActions.Proofs.Amount.Integer
import WindowActions.Proofs.Program.Spelling
import WindowActions.Proofs.Program.Progress
