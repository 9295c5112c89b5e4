import WindowActions.ActionList.Basic

/-!
# Equality of action lists

Two action lists are the same if they have the same structure: actions of one registration with
the same options in any order, and filters of one registration with the same value. Behaviors are
not compared; they follow from the registration and the options.
-/

namespace WindowActions

mutual

def Value.same : Value → Value → Bool
  | .text s, .text t => s == t
  | .list es, .list fs => sameEntries es fs
  | _, _ => false

def sameEntries : List Entry → List Entry → Bool
  | [], [] => true
  | .action ⟨info, options, _⟩ :: es, .action ⟨info', options', _⟩ :: fs =>
    info.id == info'.id && options.length == options'.length && optionsWithin options options' &&
      sameEntries es fs
  | .conditional none accepted otherwise :: es, .conditional none accepted' otherwise' :: fs =>
    sameEntries accepted accepted' && sameEntries otherwise otherwise' && sameEntries es fs
  | .conditional (some terms) accepted otherwise :: es,
      .conditional (some terms') accepted' otherwise' :: fs =>
    sameTerms terms terms' && sameEntries accepted accepted' && sameEntries otherwise otherwise' &&
      sameEntries es fs
  | _, _ => false

/-- Whether every option of the first table has the same value in the second. -/
def optionsWithin : List (String × Value) → List (String × Value) → Bool
  | [], _ => true
  | (name, value) :: options, others =>
    (match others.lookup name with
      | some value' => value.same value'
      | none => false) && optionsWithin options others

def sameTerms : List Term → List Term → Bool
  | [], [] => true
  | ⟨none, joint⟩ :: ts, ⟨none, joint'⟩ :: us => joint == joint' && sameTerms ts us
  | ⟨some ⟨info, invert, none, _⟩, joint⟩ :: ts, ⟨some ⟨info', invert', none, _⟩, joint'⟩ :: us =>
    info.id == info'.id && invert == invert' && joint == joint' && sameTerms ts us
  | ⟨some ⟨info, invert, some value, _⟩, joint⟩ :: ts,
      ⟨some ⟨info', invert', some value', _⟩, joint'⟩ :: us =>
    info.id == info'.id && invert == invert' && value.same value' && joint == joint' &&
      sameTerms ts us
  | _, _ => false

end

def ActionList.same (a b : ActionList) : Bool := sameEntries a b

/-- Whether two option tables are the same, in any order. -/
def Options.same (a b : Options) : Bool := a.length == b.length && optionsWithin a b

end WindowActions
