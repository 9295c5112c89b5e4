import Mathlib
import WindowActions.Builtin.Vocabulary
import WindowActions.Pattern.Engine
import WindowActions.Proofs.Program.Branches
import WindowActions.Vocabulary.Resolve

/-!
# What programs mean

A program means an action list, given a vocabulary: `entriesOf` goes along the tree and knows no
tokens, no warnings and no failures. Blocks mean what stands in them, and actions that are not
known or not valid mean nothing.

A source that is a program becomes the action list that it means, and no other source becomes an
action list. The one thing that can come in between is an action of the program whose setup misuses
a value. Setups are called in the order in which the actions of the program end, and the first
misuse is the one that is reported.
-/

namespace WindowActions

namespace Options

variable {options : Options}

theorem any_eq_true_iff {key : String} :
    options.any (·.1 == key) = true ↔ key ∈ options.map (·.1) := by
  simp only [List.any_eq_true, beq_iff_eq, List.mem_map]

theorem names_insert (options : Options) (name : String) (value : Value) :
    (options.insert name value).map (·.1) =
      if asciiLower name ∈ options.map (·.1) then options.map (·.1)
      else options.map (·.1) ++ [asciiLower name] := by
  rw [insert]
  by_cases hmem : asciiLower name ∈ options.map (·.1)
  · rw [if_pos (any_eq_true_iff.2 hmem), if_pos hmem, List.map_map]
    refine List.map_congr_left fun option _ => ?_
    by_cases hname : option.1 = asciiLower name <;> simp [hname]
  · rw [if_neg (mt any_eq_true_iff.1 hmem), if_neg hmem, List.map_append]
    rfl

theorem ofList_concat (given : List (String × Value)) (option : String × Value) :
    ofList (given ++ [option]) = (ofList given).insert option.1 option.2 :=
  List.foldl_append

/-- The names of a table are those that are given, in lower case, in the order in which they are
mentioned first. -/
theorem names_ofList (given : List (String × Value)) :
    (ofList given).map (·.1) = (given.map fun option => asciiLower option.1).eraseDups := by
  induction given using List.reverseRecOn with
  | nil => rfl
  | append_singleton given option ih =>
      rw [ofList_concat, names_insert, ih, List.map_append, List.eraseDups_append]
      by_cases hmem : asciiLower option.1 ∈ given.map fun option => asciiLower option.1
      · rw [if_pos (List.mem_eraseDups.2 hmem)]
        simp [List.removeAll, hmem]
      · rw [if_neg (mt List.mem_eraseDups.1 hmem)]
        simp [List.removeAll, hmem, List.eraseDups_cons]

theorem lookup_replaced (options : Options) (name key : String) (value : Value) :
    (options.map fun option => if option.1 == name then (name, value) else option).lookup key =
      if key = name then (options.lookup name).map fun _ => value else options.lookup key := by
  induction options with
  | nil => simp
  | cons option options ih =>
      obtain ⟨first, given⟩ := option
      by_cases hname : first = name
      · subst hname
        rw [List.map_cons, if_pos (beq_self_eq_true first), List.lookup_cons, List.lookup_cons,
          List.lookup_cons, ih, beq_self_eq_true]
        by_cases hkey : key = first
        · simp [hkey]
        · simp only [beq_false_of_ne hkey, if_neg hkey]
      · rw [List.map_cons, if_neg (by simpa using hname), List.lookup_cons, List.lookup_cons,
          List.lookup_cons, ih, beq_false_of_ne (Ne.symm hname)]
        cases hkey : key == first with
        | true =>
            obtain rfl := eq_of_beq hkey
            simp only [if_neg hname]
        | false => rfl

theorem lookup_insert (options : Options) (name key : String) (value : Value) :
    (options.insert name value).lookup key =
      if key = asciiLower name then some value else options.lookup key := by
  rw [insert]
  by_cases hmem : asciiLower name ∈ options.map (·.1)
  · obtain ⟨given, hgiven⟩ : ∃ given, options.lookup (asciiLower name) = some given := by
      rw [← Option.ne_none_iff_exists', Ne, List.lookup_eq_none_iff]
      obtain ⟨option, hoption, hname⟩ := List.mem_map.1 hmem
      exact fun h => by simpa [hname] using h option hoption
    rw [if_pos (any_eq_true_iff.2 hmem), lookup_replaced, hgiven, Option.map_some]
  · rw [if_neg (mt any_eq_true_iff.1 hmem), List.lookup_append]
    by_cases hkey : key = asciiLower name
    · have hnone : options.lookup key = none := by
        rw [List.lookup_eq_none_iff]
        intro option hoption
        rw [bne_iff_ne]
        rintro rfl
        exact hmem (hkey ▸ List.mem_map_of_mem hoption)
      subst hkey
      simp [hnone]
    · simp [List.lookup_cons, beq_false_of_ne hkey, hkey]

/-- What a table has under a name, in whatever case, is the value that is given last under it. -/
theorem get?_ofList (given : List (String × Value)) (name : String) :
    (ofList given).get? name =
      (given.reverse.find? fun option => asciiLower option.1 == asciiLower name).map (·.2) := by
  rw [get?]
  induction given using List.reverseRecOn with
  | nil => rfl
  | append_singleton given option ih =>
      rw [ofList_concat, lookup_insert, ih, List.reverse_concat, List.find?_cons]
      by_cases hname : asciiLower option.1 = asciiLower name
      · rw [if_pos hname.symm, beq_iff_eq.2 hname]
        rfl
      · rw [if_neg (Ne.symm hname), beq_false_of_ne hname]

end Options

mutual

/-- The actions in an operand, each with its options, in the order in which they end. -/
def Operand.actions : Operand → List (String × List (String × Operand))
  | .text _ => []
  | .list body => bodyActions body

def Statement.actions : Statement → List (String × List (String × Operand))
  | .action name options => optionsActions options ++ [(name, options)]
  | .block body => bodyActions body
  | .conditional test accepted otherwise =>
    chainActions test ++ (accepted.actions ++ otherwiseActions otherwise)

def bodyActions : List Statement → List (String × List (String × Operand))
  | [] => []
  | s :: body => s.actions ++ bodyActions body

def otherwiseActions : Option Statement → List (String × List (String × Operand))
  | none => []
  | some s => s.actions

def optionsActions : List (String × Operand) → List (String × List (String × Operand))
  | [] => []
  | (_, operand) :: options => operand.actions ++ optionsActions options

def testOperandActions : Option Operand → List (String × List (String × Operand))
  | none => []
  | some operand => operand.actions

def testsActions : List Test → List (String × List (String × Operand))
  | [] => []
  | ⟨_, operand, _⟩ :: tests => testOperandActions operand ++ testsActions tests

def chainActions : Option (List Test) → List (String × List (String × Operand))
  | none => []
  | some tests => testsActions tests

end

/-- The actions of a statement or a test that is looked up by itself. -/
def Phrase.actions : Phrase → List (String × List (String × Operand))
  | .statement s => s.actions
  | .test only => testsActions [only]

namespace Vocabulary

variable (v : Vocabulary)

/-- The entries of an action with a name and options: one, unless the action is not valid. -/
def entriesOfAction (name : String) (options : Options) : List Entry :=
  match v.actions.find? name with
  | none => []
  | some definition =>
    match definition.setup options with
    | .ok (some behavior) => [.action ⟨definition.info, options, behavior⟩]
    | _ => []

/-- The filter with a key and a value, if it is valid. -/
def filterOf (key : String) (value : Option Value) : Option Filter :=
  match v.findFilter? key with
  | none => none
  | some (definition, invert) =>
    match definition.setup value with
    | .ok rule => some ⟨definition.info, invert, value, rule⟩
    | .error _ => none

mutual

def valueOf : Operand → Value
  | .text chars => .text chars
  | .list body => .list (entriesOf body)

def entriesOfStatement : Statement → List Entry
  | .action name options => v.entriesOfAction name (Options.ofList (optionsOf options))
  | .block body => entriesOf body
  | .conditional test accepted otherwise =>
    [.conditional (chainOf test) (entriesOfStatement accepted) (entriesOfOtherwise otherwise)]

def entriesOfOtherwise : Option Statement → List Entry
  | none => []
  | some statement => entriesOfStatement statement

def entriesOf : List Statement → List Entry
  | [] => []
  | statement :: body => entriesOfStatement statement ++ entriesOf body

def optionsOf : List (String × Operand) → List (String × Value)
  | [] => []
  | (name, operand) :: options => (name, valueOf operand) :: optionsOf options

def valueOfTest : Option Operand → Option Value
  | none => none
  | some operand => some (valueOf operand)

def termsOf : List Test → List Term
  | [] => []
  | ⟨key, operand, joint⟩ :: tests =>
    ⟨v.filterOf key (valueOfTest operand), joint⟩ :: termsOf tests

def chainOf : Option (List Test) → Option (List Term)
  | none => none
  | some tests => some (termsOf tests)

end

theorem mem_of_findFilter? {v : Vocabulary} {key : String} {definition : FilterDefinition}
    {invert : Bool} (h : v.findFilter? key = some (definition, invert)) :
    definition ∈ v.filters.definitions := by
  rw [findFilter?] at h
  split at h
  case h_1 found hnamed =>
      cases h
      exact List.mem_of_find?_eq_some hnamed
  case h_2 =>
      obtain ⟨found, hnegated, hpair⟩ := Option.map_eq_some_iff.1 h
      obtain ⟨stripped, -, hnamed⟩ := Option.bind_eq_some_iff.1 hnegated
      cases hpair
      exact List.mem_of_find?_eq_some hnamed

/-- An action of the vocabulary misuses a value when it is set up. -/
def Misuses (m : Misuse) : Prop :=
  ∃ definition ∈ v.actions.definitions, ∃ options, definition.setup options = .error m

/-- The misuse in the setup of an action, if it is known and its setup misuses a value. -/
def misuseOfAction (name : String) (options : Options) : Option Misuse :=
  match v.actions.find? name with
  | none => none
  | some definition =>
    match definition.setup options with
    | .ok _ => none
    | .error m => some m

/-- The misuse in the setup of an action of a program. -/
def misuseOf (action : String × List (String × Operand)) : Option Misuse :=
  v.misuseOfAction action.1 (Options.ofList (v.optionsOf action.2))

/-- The first misuse among the setups that are called for a program. -/
def firstMisuse (body : List Statement) : Option Misuse := (bodyActions body).findSome? v.misuseOf

theorem misuses_of_misuseOf {v : Vocabulary} {action : String × List (String × Operand)}
    {m : Misuse} (h : v.misuseOf action = some m) : v.Misuses m := by
  rw [misuseOf, misuseOfAction] at h
  split at h
  case h_1 => cases h
  case h_2 definition hfind =>
      split at h
      case h_1 => cases h
      case h_2 m' hsetup =>
          cases h
          exact ⟨definition, List.mem_of_find?_eq_some hfind, _, hsetup⟩

theorem misuses_of_findSome? {v : Vocabulary} {actions : List (String × List (String × Operand))}
    {m : Misuse} (h : actions.findSome? v.misuseOf = some m) : v.Misuses m := by
  obtain ⟨action, -, haction⟩ := List.exists_of_findSome?_eq_some h
  exact misuses_of_misuseOf haction

end Vocabulary

/-- Looking something up has the result `a`, unless there is a misuse. -/
def Resolved.Means {α : Type} (r : Resolved α) (misuse : Option Misuse) (a : α) : Prop :=
  r.result = misuse.elim (.ok a) .error

namespace Resolved

variable {α β : Type} {misuse misuse' : Option Misuse}

theorem Means.pure (a : α) : (Resolved.pure a).Means none a := rfl

/-- Of two misuses the first one counts. -/
theorem Means.bind {r : Resolved α} {f : α → Resolved β} {a : α} {b : β} (h : r.Means misuse a)
    (hf : (f a).Means misuse' b) : (r.bind f).Means (misuse.or misuse') b := by
  cases misuse with
  | none => simpa [Means, Resolved.bind, h.trans rfl] using hf
  | some m => simp [Means, Resolved.bind, h.trans rfl]

theorem Means.eq_of_ok {r : Resolved α} {a b : α} (h : r.Means misuse a) (hok : r.result = .ok b) :
    b = a := by
  cases misuse with
  | none => exact Except.ok.inj (hok.symm.trans h)
  | some m => cases hok.symm.trans h

theorem Means.map {r : Resolved α} {a : α} (h : r.Means misuse a) (f : α → β) :
    (r.bind fun a => Resolved.pure (f a)).Means misuse (f a) := by
  have hbind := h.bind (f := fun a => Resolved.pure (f a)) (.pure (f a))
  rwa [Option.or_none] at hbind

end Resolved

namespace Vocabulary

variable (v : Vocabulary)

theorem makeAction_means (name : String) (options : Options) :
    (v.makeAction name options).Means (v.misuseOfAction name options)
      (v.entriesOfAction name options) := by
  unfold makeAction entriesOfAction misuseOfAction
  cases v.actions.find? name with
  | none => rfl
  | some definition =>
      simp only
      cases definition.setup options with
      | error m => rfl
      | ok behavior => cases behavior <;> rfl

theorem makeFilter_means (key : String) (value : Option Value) :
    (v.makeFilter key value).Means none (v.filterOf key value) := by
  unfold makeFilter filterOf
  cases v.findFilter? key with
  | none => rfl
  | some found =>
      obtain ⟨definition, invert⟩ := found
      simp only
      cases definition.setup value <;> rfl

mutual

theorem resolveOperand_means (operand : Operand) :
    (v.resolveOperand operand).Means (operand.actions.findSome? v.misuseOf)
      (v.valueOf operand) := by
  match operand with
  | .text chars => exact .pure _
  | .list body => exact (resolveBody_means body).map _

theorem resolveStatement_means (s : Statement) :
    (v.resolveStatement s).Means (s.actions.findSome? v.misuseOf) (v.entriesOfStatement s) := by
  match s with
  | .action name options =>
      have hone : (v.makeAction name (Options.ofList (v.optionsOf options))).Means
          ([(name, options)].findSome? v.misuseOf)
          (v.entriesOfAction name (Options.ofList (v.optionsOf options))) := by
        rw [List.findSome?_singleton]
        exact makeAction_means v _ _
      rw [Statement.actions, List.findSome?_append]
      exact (resolveOptions_means options).bind hone
  | .block body => exact resolveBody_means body
  | .conditional none accepted otherwise =>
      rw [Statement.actions, chainActions, List.nil_append, List.findSome?_append]
      exact (resolveStatement_means accepted).bind ((resolveOtherwise_means otherwise).map _)
  | .conditional (some tests) accepted otherwise =>
      rw [Statement.actions, chainActions, List.findSome?_append, List.findSome?_append]
      exact (resolveTests_means tests).bind
        ((resolveStatement_means accepted).bind ((resolveOtherwise_means otherwise).map _))

theorem resolveOtherwise_means (otherwise : Option Statement) :
    (v.resolveOtherwise otherwise).Means ((otherwiseActions otherwise).findSome? v.misuseOf)
      (v.entriesOfOtherwise otherwise) := by
  match otherwise with
  | none => exact .pure _
  | some s => exact resolveStatement_means s

theorem resolveBody_means (body : List Statement) :
    (v.resolveBody body).Means (v.firstMisuse body) (v.entriesOf body) := by
  match body with
  | [] => exact .pure _
  | s :: body =>
      rw [firstMisuse, bodyActions, List.findSome?_append]
      exact (resolveStatement_means s).bind ((resolveBody_means body).map _)

theorem resolveOptions_means (options : List (String × Operand)) :
    (v.resolveOptions options).Means ((optionsActions options).findSome? v.misuseOf)
      (v.optionsOf options) := by
  match options with
  | [] => exact .pure _
  | (name, operand) :: options =>
      rw [optionsActions, List.findSome?_append]
      exact (resolveOperand_means operand).bind ((resolveOptions_means options).map _)

theorem resolveTests_means (tests : List Test) :
    (v.resolveTests tests).Means ((testsActions tests).findSome? v.misuseOf)
      (v.termsOf tests) := by
  match tests with
  | [] => exact .pure _
  | ⟨key, none, joint⟩ :: tests =>
      rw [testsActions, testOperandActions, List.nil_append]
      exact (makeFilter_means v key none).bind ((resolveTests_means tests).map _)
  | ⟨key, some operand, joint⟩ :: tests =>
      rw [testsActions, testOperandActions, List.findSome?_append]
      exact (resolveOperand_means operand).bind
        ((makeFilter_means v key _).bind ((resolveTests_means tests).map _))

end

theorem parse_result_of_ok {source : String} {stream : TokenStream} {p : Program}
    (h : tokenize source = .ok stream) (hp : stream.toProgram = .ok p) :
    (v.parse source).result = (v.resolveBody p).result.mapError .misuse := by
  simp only [parse, h, hp]
  rfl

theorem parse_result_of_error {source : String} {stream : TokenStream} {r : Rejection}
    (h : tokenize source = .ok stream) (hr : stream.toProgram = .error r) (list : ActionList) :
    (v.parse source).result ≠ .ok list := by
  simp only [parse, h, hr, Parsed.ofRejected]
  intro heq
  cases hresult : (v.resolvePhrases r.heard).result <;> rw [hresult] at heq <;> cases heq

/-- A source that becomes an action list is a program and stands for what its names stand for. -/
theorem exists_program_of_parse_eq_ok {source : String} {stream : TokenStream} {list : ActionList}
    (h : tokenize source = .ok stream) (hlist : (v.parse source).result = .ok list) :
    ∃ p, stream.toProgram = .ok p ∧ (v.resolveBody p).result = .ok list := by
  cases hp : stream.toProgram with
  | error r => exact absurd hlist (v.parse_result_of_error h hp list)
  | ok p =>
      rw [v.parse_result_of_ok h hp] at hlist
      cases hresult : (v.resolveBody p).result with
      | error m =>
          rw [hresult] at hlist
          cases hlist
      | ok entries =>
          rw [hresult] at hlist
          cases hlist
          exact ⟨p, rfl, hresult⟩

/-- A source that becomes an action list has tokens, and they are a program. -/
theorem exists_stream_of_parse_eq_ok {source : String} {list : ActionList}
    (hlist : (v.parse source).result = .ok list) :
    ∃ stream p, tokenize source = .ok stream ∧ stream.toProgram = .ok p ∧
      (v.resolveBody p).result = .ok list := by
  cases h : tokenize source with
  | error e =>
      simp only [parse, h] at hlist
      cases hlist
  | ok stream =>
      obtain ⟨p, hread, hresolved⟩ := v.exists_program_of_parse_eq_ok h hlist
      exact ⟨stream, p, rfl, hread, hresolved⟩

/-- Every action list that a source becomes is what some program means. -/
theorem exists_eq_entriesOf {source : String} {list : ActionList}
    (h : (v.parse source).result = .ok list) : ∃ p, list = v.entriesOf p := by
  obtain ⟨stream, p, -, -, hresolved⟩ := v.exists_stream_of_parse_eq_ok h
  exact ⟨p, (v.resolveBody_means p).eq_of_ok hresolved⟩

/-- The tokens of a source are a program in at most one way, and in one whenever the grammar can
read them at all. A source becomes the action list that its program means, unless the program is
nested too deeply or one of the setups that are called for its actions misuses a value; then the
first such misuse is reported. A source without a program becomes no action list. -/
theorem parse_means (v : Vocabulary) {source : String} {stream : TokenStream}
    (h : tokenize source = .ok stream) :
    let IsReading := fun p : Program => BodyAt (fun _ => True) p stream.tokens []
    let IsProgram := fun p : Program => BodyAt Statement.IsClosed p stream.tokens []
    ((∃ p, IsReading p) ↔ ∃! p, IsProgram p) ∧
    (∀ list, (v.parse source).result = .ok list →
      ∃ p, IsProgram p ∧ bodyDepth p ≤ 64 ∧ list = v.entriesOf p) ∧
    (∀ p, IsProgram p → bodyDepth p ≤ 64 →
      (v.firstMisuse p = none → (v.parse source).result = .ok (v.entriesOf p)) ∧
      ∀ m, v.firstMisuse p = some m →
        v.Misuses m ∧ (v.parse source).result = .error (.misuse m)) := by
  intro IsReading IsProgram
  refine ⟨⟨?_, ?_⟩, ?_, ?_⟩
  · rintro ⟨p, hp⟩
    exact BodyAt.existsUnique hp
  · rintro ⟨p, hp, -⟩
    exact ⟨p, BodyAt.mono hp fun _ _ => trivial⟩
  · intro list hlist
    obtain ⟨p, hread, hresolved⟩ := v.exists_program_of_parse_eq_ok h hlist
    obtain ⟨hp, hdepth⟩ := TokenStream.toProgram_sound hread
    exact ⟨p, hp, hdepth, (v.resolveBody_means p).eq_of_ok hresolved⟩
  · intro p hp hdepth
    rw [v.parse_result_of_ok h (TokenStream.toProgram_complete hp hdepth), v.resolveBody_means p]
    refine ⟨fun hnone => ?_, fun m hm => ⟨misuses_of_findSome? hm, ?_⟩⟩
    · rw [hnone]
      rfl
    · rw [hm]
      rfl

/-- The block behind `|` belongs to the second conditional. An action that is not known leaves
nothing behind, and of an option that is given twice the last value stays in the first place. -/
theorem parse_means_innermost :
    let source := "[urgent] [iconic] Close now:a in:b NOW:c | \x7bRaise; Iconify\x7d"
    let list : ActionList := [.conditional
      (some [⟨some ⟨⟨1, "urgent"⟩, false, none, .matching (·.state.urgent)⟩, .or⟩])
      [.conditional
        (some [⟨some ⟨⟨3, "iconic"⟩, false, none, .matching (·.state.iconic)⟩, .or⟩])
        [.action ⟨⟨0, "Close", .single, false⟩, [("now", .text "c"), ("in", .text "b")],
          closeBehavior⟩]
        [.action ⟨⟨2, "Iconify", .single, false⟩, [], iconifyBehavior⟩]]
      []]
    (builtin.parse source).result = .ok list := by
  intro source list
  let close : Statement :=
    .action "Close" [("now", .text "a"), ("in", .text "b"), ("NOW", .text "c")]
  let block : Statement := .block [.action "Raise" [], .action "Iconify" []]
  let inner : Statement := .conditional (some [⟨"iconic", none, .or⟩]) close (some block)
  have htokens : tokenize source = .ok ⟨[
      ⟨.mark .leftBracket, ⟨1, 1⟩⟩, ⟨.word "urgent", ⟨1, 2⟩⟩, ⟨.mark .rightBracket, ⟨1, 8⟩⟩,
      ⟨.mark .leftBracket, ⟨1, 10⟩⟩, ⟨.word "iconic", ⟨1, 11⟩⟩, ⟨.mark .rightBracket, ⟨1, 17⟩⟩,
      ⟨.word "Close", ⟨1, 19⟩⟩, ⟨.word "now", ⟨1, 25⟩⟩, ⟨.mark .colon, ⟨1, 28⟩⟩,
      ⟨.word "a", ⟨1, 29⟩⟩, ⟨.word "in", ⟨1, 31⟩⟩, ⟨.mark .colon, ⟨1, 33⟩⟩,
      ⟨.word "b", ⟨1, 34⟩⟩, ⟨.word "NOW", ⟨1, 36⟩⟩, ⟨.mark .colon, ⟨1, 39⟩⟩,
      ⟨.word "c", ⟨1, 40⟩⟩, ⟨.mark .pipe, ⟨1, 42⟩⟩, ⟨.mark .leftBrace, ⟨1, 44⟩⟩,
      ⟨.word "Raise", ⟨1, 45⟩⟩, ⟨.mark .semicolon, ⟨1, 50⟩⟩, ⟨.word "Iconify", ⟨1, 52⟩⟩,
      ⟨.mark .rightBrace, ⟨1, 59⟩⟩], ⟨1, 60⟩⟩ := by cbv
  have hprogram := ((parse_means builtin htokens).2.2
    [.conditional (some [⟨"urgent", none, .or⟩]) inner none]
    (.cons (.when (.some (.last .none))
      (.whenElse (.some (.last .none)) (.action (.cons .word (.cons .word (.cons .word .nil)))) rfl
        (.block (.cons (.action .nil) (.semicolon (.cons (.action .nil) .nil)))))) .nil)
    (by decide)).1 (by cbv)
  exact hprogram.trans (by cbv)

end Vocabulary

end WindowActions
