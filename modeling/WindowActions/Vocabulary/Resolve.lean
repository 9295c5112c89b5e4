import WindowActions.ActionList.Show
import WindowActions.Program.Read
import WindowActions.Token.Scan
import WindowActions.Vocabulary.Basic

/-!
# From programs to action lists

Resolving a program looks up its names in the order in which its actions and tests end, and makes
their behaviors and rules. An action that is not known or has invalid options is left out with a
warning; a filter that is not known or has an invalid value stays as one that is for no client.
Blocks disappear into the list around them. Only a setup that misuses a value stops all of this.
-/

namespace WindowActions

structure Resolved (α : Type) where
  warnings : List Warning
  result : Except Misuse α

namespace Resolved

variable {α β : Type}

def pure (a : α) : Resolved α := ⟨[], .ok a⟩

def warn (w : Warning) (a : α) : Resolved α := ⟨[w], .ok a⟩

/-- A result and what is looked up with it. After a misuse nothing more is looked up. -/
def bind (r : Resolved α) (f : α → Resolved β) : Resolved β :=
  match r.result with
  | .ok a => ⟨r.warnings ++ (f a).warnings, (f a).result⟩
  | .error m => ⟨r.warnings, .error m⟩

instance : Monad Resolved where
  pure := Resolved.pure
  bind := Resolved.bind

@[simp] theorem pure_bind (a : α) (f : α → Resolved β) : (Resolved.pure a).bind f = f a := by
  simp [Resolved.pure, bind]

@[simp] theorem bind_pure (r : Resolved α) : r.bind Resolved.pure = r := by
  obtain ⟨ws, result⟩ := r
  cases result <;> simp [Resolved.pure, bind]

theorem bind_assoc {γ : Type} (r : Resolved α) (f : α → Resolved β) (g : β → Resolved γ) :
    (r.bind f).bind g = r.bind fun a => (f a).bind g := by
  obtain ⟨ws, result⟩ := r
  cases result with
  | error m => rfl
  | ok a =>
    simp only [bind]
    cases (f a).result <;> simp

end Resolved

namespace Vocabulary

variable (v : Vocabulary)

/-- The action with a name and options, as the entries that it contributes to a list. -/
def makeAction (name : String) (options : Options) : Resolved (List Entry) :=
  match v.actions.find? name with
  | none => .warn (.unknownAction name) []
  | some definition =>
    match definition.setup options with
    | .error m => ⟨[], .error m⟩
    | .ok none => .warn (.invalidOptions definition.info.name) []
    | .ok (some behavior) => .pure [.action ⟨definition.info, options, behavior⟩]

/-- A name behind the `no` that turns a filter into its opposite. -/
def stripNegation? (key : String) : Option String :=
  match key.toList with
  | 'n' :: 'o' :: c :: cs | 'N' :: 'o' :: c :: cs => some (String.ofList (c :: cs))
  | _ => none

/-- The filter that a key names, and whether the key names its opposite. -/
def findFilter? (key : String) : Option (FilterDefinition × Bool) :=
  match v.filters.find? key with
  | some definition => some (definition, false)
  | none => ((stripNegation? key).bind v.filters.find?).map fun definition => (definition, true)

def makeFilter (key : String) (value : Option Value) : Resolved (Option Filter) :=
  match v.findFilter? key with
  | none => .warn (.unknownFilter key) none
  | some (definition, invert) =>
    match definition.setup value with
    | .error complaints =>
      let shown := shownOption (value.map Value.shown)
      ⟨complaints ++ [.invalidValue definition.info.name shown], .ok none⟩
    | .ok rule => .pure (some ⟨definition.info, invert, value, rule⟩)

mutual

def resolveOperand : Operand → Resolved Value
  | .text chars => .pure (.text chars)
  | .list body => (resolveBody body).bind fun entries => .pure (.list entries)

def resolveStatement : Statement → Resolved (List Entry)
  | .action name options =>
    (resolveOptions options).bind fun given => v.makeAction name (Options.ofList given)
  | .block body => resolveBody body
  | .conditional none accepted otherwise =>
    (resolveStatement accepted).bind fun accepted =>
      (resolveOtherwise otherwise).bind fun otherwise =>
        .pure [.conditional none accepted otherwise]
  | .conditional (some tests) accepted otherwise =>
    (resolveTests tests).bind fun terms =>
      (resolveStatement accepted).bind fun accepted =>
        (resolveOtherwise otherwise).bind fun otherwise =>
          .pure [.conditional (some terms) accepted otherwise]

/-- The entries of the branch for when no client is selected. -/
def resolveOtherwise : Option Statement → Resolved (List Entry)
  | none => .pure []
  | some statement => resolveStatement statement

def resolveBody : List Statement → Resolved (List Entry)
  | [] => .pure []
  | statement :: body =>
    (resolveStatement statement).bind fun entries =>
      (resolveBody body).bind fun more => .pure (entries ++ more)

/-- The options of an action, in the order in which they are given. -/
def resolveOptions : List (String × Operand) → Resolved (List (String × Value))
  | [] => .pure []
  | (name, operand) :: options =>
    (resolveOperand operand).bind fun value =>
      (resolveOptions options).bind fun more => .pure ((name, value) :: more)

def resolveTests : List Test → Resolved (List Term)
  | [] => .pure []
  | ⟨key, none, joint⟩ :: tests =>
    (v.makeFilter key none).bind fun filter =>
      (resolveTests tests).bind fun more => .pure (⟨filter, joint⟩ :: more)
  | ⟨key, some operand, joint⟩ :: tests =>
    (resolveOperand operand).bind fun value =>
      (v.makeFilter key (some value)).bind fun filter =>
        (resolveTests tests).bind fun more => .pure (⟨filter, joint⟩ :: more)

end

/-- Looks up the names in phrases of a program that is rejected. -/
def resolvePhrases : List Phrase → Resolved Unit
  | [] => .pure ()
  | .statement statement :: phrases =>
    (v.resolveStatement statement).bind fun _ => resolvePhrases phrases
  | .test test :: phrases =>
    (v.resolveTests [test]).bind fun _ => resolvePhrases phrases

end Vocabulary

/-- Why a program does not become an action list. -/
inductive ParseFailure where
  /-- The program is not well formed. -/
  | source (error : SourceError)
  /-- The setup of an action misuses a value. -/
  | misuse (misuse : Misuse)
deriving DecidableEq, Repr

/-- What becomes of a program: the warnings on the way, and an action list unless it fails. -/
structure Parsed where
  warnings : List Warning
  result : Except ParseFailure ActionList

/-- The outcome of looking up the names of a program that is well formed. -/
def Parsed.ofResolved (r : Resolved ActionList) : Parsed :=
  ⟨r.warnings, r.result.mapError .misuse⟩

/-- The outcome for a program that is rejected, after its phrases have been looked up. -/
def Parsed.ofRejected (error : SourceError) (r : Resolved Unit) : Parsed :=
  ⟨r.warnings,
    match r.result with
    | .ok () => .error (.source error)
    | .error m => .error (.misuse m)⟩

def Vocabulary.parse (v : Vocabulary) (source : String) : Parsed :=
  match tokenize source with
  | .error e => ⟨[], .error (.source e)⟩
  | .ok stream =>
    match stream.toProgram with
    | .error rejection => .ofRejected rejection.error (v.resolvePhrases rejection.heard)
    | .ok program => .ofResolved (v.resolveBody program)

end WindowActions
