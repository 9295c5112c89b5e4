import Mathlib
import WindowActions.Builtin.Vocabulary
import WindowActions.Pattern.Engine
import WindowActions.Proofs.Program.Likeness
import WindowActions.Vocabulary.Resolve

/-!
# The spelling of names

Names of actions, options and filters have no case. Actions and filters are found by comparing
names in lower case, options have their names lowered before they are inserted, and a negated filter
is found once more without its first two characters. These two are the only ones that have a case,
and only if the key as a whole names no filter.

So two programs that differ in the case of such names are alike: their statements become the same
entries. `Site` says which words of a source are names.
-/

namespace WindowActions

section SameName

variable {name name' : String} (h : sameName name name' = true)

include h

theorem sameName_congr (other : String) : sameName other name = sameName other name' := by
  rw [sameName, sameName, sameName_iff.1 h]

theorem ActionRegistry.find?_sameName (registry : ActionRegistry) :
    registry.find? name = registry.find? name' := by
  simp only [find?, sameName_congr h]

theorem FilterRegistry.find?_sameName (registry : FilterRegistry) :
    registry.find? name = registry.find? name' := by
  simp only [find?, sameName_congr h]

theorem Options.insert_sameName (options : Options) (value : Value) :
    options.insert name value = options.insert name' value := by
  rw [insert, insert, sameName_iff.1 h]

end SameName

/-- Options with the same value and names that differ in case only. -/
structure SameOption (option option' : String × Value) : Prop where
  name : sameName option.1 option'.1 = true
  value : option.2 = option'.2

/-- Options that are given twice in different cases are one option in both. -/
theorem Options.ofList_sameName {given given' : List (String × Value)}
    (h : List.Forall₂ SameOption given given') : Options.ofList given = Options.ofList given' := by
  rw [ofList, ofList]
  generalize ([] : Options) = options
  induction h generalizing options with
  | nil => rfl
  | cons hone _ ih =>
      rw [List.foldl_cons, List.foldl_cons, hone.value, insert_sameName hone.name]
      exact ih _

namespace Resolved

variable {α β : Type} {r r' : Resolved α} {f f' : α → Resolved β}

theorem bind_sameOutcome {A : α → α → Prop} {B : β → β → Prop}
    (h : SameOutcome Eq A r.result r'.result)
    (hf : ∀ a a', A a a' → SameOutcome Eq B (f a).result (f' a').result) :
    SameOutcome Eq B (r.bind f).result (r'.bind f').result := by
  obtain ⟨warnings, result⟩ := r
  obtain ⟨warnings', result'⟩ := r'
  cases h with
  | error hm => exact .error hm
  | ok ha => exact hf _ _ ha

theorem bind_result_congr (h : r.result = r'.result) (hf : ∀ a, (f a).result = (f' a).result) :
    (r.bind f).result = (r'.bind f').result := by
  refine SameOutcome.eq_iff.1 (bind_sameOutcome (SameOutcome.eq_iff.2 h) ?_)
  rintro a _ rfl
  exact SameOutcome.eq_iff.2 (hf a)

end Resolved

namespace Vocabulary

section Keys

/-- Keys that differ in case only. The two characters that can negate a filter have the same case in
both, unless the whole key names a filter. -/
structure SameKey (v : Vocabulary) (key key' : String) : Prop where
  name : sameName key key' = true
  front : (v.filters.find? key).isSome = true ∨ key.toList.take 2 = key'.toList.take 2

variable {v : Vocabulary} {key key' : String}

theorem stripNegation?_eq (key : String) :
    stripNegation? key =
      if (key.toList.take 2 = ['n', 'o'] ∨ key.toList.take 2 = ['N', 'o']) ∧ key.toList.drop 2 ≠ []
      then some (String.ofList (key.toList.drop 2)) else none := by
  rw [stripNegation?]
  split
  case h_1 heq => simp [heq]
  case h_2 heq => simp [heq]
  case h_3 hlower hupper =>
      refine (if_neg ?_).symm
      rintro ⟨hfront, hbehind⟩
      obtain ⟨c, cs, hcs⟩ := List.exists_cons_of_ne_nil hbehind
      have hkey := List.take_append_drop 2 key.toList
      rw [hcs] at hkey
      rcases hfront with hfront | hfront
      · exact hlower c cs (by rw [← hkey, hfront]; rfl)
      · exact hupper c cs (by rw [← hkey, hfront]; rfl)

/-- The name behind a negation differs in case only if the key does. -/
theorem stripNegation?_sameName (hname : sameName key key' = true)
    (hfront : key.toList.take 2 = key'.toList.take 2) :
    Option.Rel (fun name name' => sameName name name' = true) (stripNegation? key)
      (stripNegation? key') := by
  have hlower : (key.toList.drop 2).map Char.toLower = (key'.toList.drop 2).map Char.toLower := by
    rw [List.map_drop, List.map_drop, ← toList_asciiLower, ← toList_asciiLower,
      sameName_iff.1 hname]
  have hnil : key.toList.drop 2 = [] ↔ key'.toList.drop 2 = [] := by
    rw [← List.map_eq_nil_iff (f := Char.toLower), hlower, List.map_eq_nil_iff]
  rw [stripNegation?_eq, stripNegation?_eq, ← hfront]
  simp only [ne_eq, ← hnil]
  split
  · refine .some (sameName_iff.2 ?_)
    rw [asciiLower, asciiLower, String.toList_ofList, String.toList_ofList, hlower]
  · exact .none

theorem findFilter?_sameKey (h : v.SameKey key key') : v.findFilter? key = v.findFilter? key' := by
  rw [findFilter?, findFilter?, ← v.filters.find?_sameName h.name]
  cases hfind : v.filters.find? key with
  | some definition => rfl
  | none =>
      have hfront := h.front.resolve_left (by simp [hfind])
      have hstripped := stripNegation?_sameName h.name hfront
      generalize stripNegation? key = stripped, stripNegation? key' = stripped' at hstripped
      cases hstripped with
      | none => rfl
      | some hname => simp only [Option.bind_some, v.filters.find?_sameName hname]

theorem makeFilter_sameKey (h : v.SameKey key key') (value : Option Value) :
    (v.makeFilter key value).result = (v.makeFilter key' value).result := by
  rw [makeFilter, makeFilter, findFilter?_sameKey h]
  cases v.findFilter? key' with
  | none => rfl
  | some found => rfl

end Keys

theorem makeAction_sameName {name name' : String} (v : Vocabulary)
    (h : sameName name name' = true) (options : Options) :
    (v.makeAction name options).result = (v.makeAction name' options).result := by
  rw [makeAction, makeAction, v.actions.find?_sameName h]
  cases v.actions.find? name' with
  | none => rfl
  | some definition => rfl

variable (v : Vocabulary)

/-- Tokens at the same places that differ at most in the case of names. -/
def caseVariation : Variation where
  place := Eq
  name name name' := sameName name name' = true
  key := v.SameKey

/-- Statements are alike if they become the same entries. -/
def caseLikeness : Likeness where
  toVariation := v.caseVariation
  statement s s' := (v.resolveStatement s).result = (v.resolveStatement s').result

section Resolve

variable {v}

theorem resolveBody_alike {body body' : List Statement}
    (h : List.Forall₂ v.caseLikeness.statement body body') :
    (v.resolveBody body).result = (v.resolveBody body').result := by
  induction h with
  | nil => rfl
  | cons hone _ ih =>
      rw [resolveBody, resolveBody]
      exact Resolved.bind_result_congr hone fun _ => Resolved.bind_result_congr ih fun _ => rfl

theorem resolveOperand_alike {operand operand' : Operand}
    (h : v.caseLikeness.AlikeOperands operand operand') :
    (v.resolveOperand operand).result = (v.resolveOperand operand').result := by
  cases h with
  | text chars => rfl
  | list h =>
      rw [resolveOperand, resolveOperand]
      exact Resolved.bind_result_congr (resolveBody_alike h) fun _ => rfl

theorem resolveOptions_alike {options options' : List (String × Operand)}
    (h : List.Forall₂ v.caseLikeness.AlikeOptions options options') :
    SameOutcome Eq (List.Forall₂ SameOption) (v.resolveOptions options).result
      (v.resolveOptions options').result := by
  induction h with
  | nil => exact .ok .nil
  | @cons option option' _ _ hone _ ih =>
      obtain ⟨name, operand⟩ := option
      obtain ⟨name', operand'⟩ := option'
      rw [resolveOptions, resolveOptions]
      have hoperand := SameOutcome.eq_iff.2 (resolveOperand_alike hone.operand)
      refine Resolved.bind_sameOutcome hoperand fun value value' hvalue => ?_
      refine Resolved.bind_sameOutcome ih fun more more' hmore => ?_
      exact .ok (.cons ⟨hone.name, hvalue⟩ hmore)

theorem resolveTests_alike {tests tests' : List Test}
    (h : List.Forall₂ v.caseLikeness.AlikeTests tests tests') :
    (v.resolveTests tests).result = (v.resolveTests tests').result := by
  induction h with
  | nil => rfl
  | @cons test test' _ _ hone _ ih =>
      obtain ⟨key, operand, joint⟩ := test
      obtain ⟨key', operand', joint'⟩ := test'
      obtain ⟨hkey, hoperand, rfl⟩ := hone
      cases hoperand with
      | none =>
          rw [resolveTests, resolveTests]
          exact Resolved.bind_result_congr (makeFilter_sameKey hkey none) fun _ =>
            Resolved.bind_result_congr ih fun _ => rfl
      | some hoperand =>
          rw [resolveTests, resolveTests]
          exact Resolved.bind_result_congr (resolveOperand_alike hoperand) fun value =>
            Resolved.bind_result_congr (makeFilter_sameKey hkey (some value)) fun _ =>
              Resolved.bind_result_congr ih fun _ => rfl

theorem resolveOtherwise_alike {otherwise otherwise' : Option Statement}
    (h : Option.Rel v.caseLikeness.statement otherwise otherwise') :
    (v.resolveOtherwise otherwise).result = (v.resolveOtherwise otherwise').result := by
  cases h with
  | none => rfl
  | some h => exact h

theorem resolveAction_alike {name name' : String} {options options' : List (String × Operand)}
    (hname : sameName name name' = true)
    (h : List.Forall₂ v.caseLikeness.AlikeOptions options options') :
    (v.resolveStatement (.action name options)).result =
      (v.resolveStatement (.action name' options')).result := by
  rw [resolveStatement, resolveStatement]
  refine SameOutcome.eq_iff.1
    (Resolved.bind_sameOutcome (resolveOptions_alike h) fun given given' hgiven => ?_)
  rw [Options.ofList_sameName hgiven]
  exact SameOutcome.eq_iff.2 (v.makeAction_sameName hname _)

theorem resolveConditional_alike {chain chain' : Option (List Test)}
    {accepted accepted' : Statement} {otherwise otherwise' : Option Statement}
    (hchain : Option.Rel (List.Forall₂ v.caseLikeness.AlikeTests) chain chain')
    (haccepted : v.caseLikeness.statement accepted accepted')
    (hotherwise : Option.Rel v.caseLikeness.statement otherwise otherwise') :
    (v.resolveStatement (.conditional chain accepted otherwise)).result =
      (v.resolveStatement (.conditional chain' accepted' otherwise')).result := by
  have hotherwise := resolveOtherwise_alike hotherwise
  cases hchain with
  | none =>
      rw [resolveStatement, resolveStatement]
      exact Resolved.bind_result_congr haccepted fun _ =>
        Resolved.bind_result_congr hotherwise fun _ => rfl
  | some htests =>
      rw [resolveStatement, resolveStatement]
      exact Resolved.bind_result_congr (resolveTests_alike htests) fun _ =>
        Resolved.bind_result_congr haccepted fun _ =>
          Resolved.bind_result_congr hotherwise fun _ => rfl

theorem caseLikeness_isCongruence : v.caseLikeness.IsCongruence where
  action := resolveAction_alike
  block := resolveBody_alike
  conditional := resolveConditional_alike

theorem resolvePhrases_alike {phrases phrases' : List Phrase}
    (h : List.Forall₂ v.caseLikeness.AlikePhrases phrases phrases') :
    (v.resolvePhrases phrases).result = (v.resolvePhrases phrases').result := by
  induction h with
  | nil => rfl
  | cons hone _ ih =>
      cases hone with
      | statement hs =>
          rw [resolvePhrases, resolvePhrases]
          exact Resolved.bind_result_congr hs fun _ => ih
      | test ht =>
          rw [resolvePhrases, resolvePhrases]
          exact Resolved.bind_result_congr (resolveTests_alike (.cons ht .nil)) fun _ => ih

end Resolve

end Vocabulary

/-- The same misuse, or something wrong at the same place. -/
inductive ParseFailure.SamePlace : ParseFailure → ParseFailure → Prop
  | source {e e' : SourceError} (h : e.pos = e'.pos) : SamePlace (.source e) (.source e')
  | misuse (m : Misuse) : SamePlace (.misuse m) (.misuse m)

namespace Vocabulary

/-- Names have no case. Two sources whose tokens stand at the same places, and differ at most in the
ASCII case of names, become the same action list, or both fail: by the same misuse, or with an error
at the same place. -/
theorem case_irrelevant (v : Vocabulary) {source source' : String} {stream stream' : TokenStream}
    (hs : tokenize source = .ok stream) (hs' : tokenize source' = .ok stream')
    (h : v.caseVariation.AlikeStreams stream stream') :
    SameOutcome ParseFailure.SamePlace Eq (v.parse source).result (v.parse source').result := by
  have hprograms := Likeness.toProgram_like caseLikeness_isCongruence h
  rw [parse, parse, hs, hs']
  simp only
  generalize stream.toProgram = program, stream'.toProgram = program' at hprograms
  cases hprograms with
  | error hr =>
      simp only [Parsed.ofRejected, resolvePhrases_alike hr.heard]
      cases (v.resolvePhrases _).result with
      | error m => exact .error (.misuse m)
      | ok _ => exact .error (.source hr.pos)
  | ok hp =>
      simp only [Parsed.ofResolved, resolveBody_alike hp]
      cases (v.resolveBody _).result with
      | error m => exact .error (.misuse m)
      | ok list => exact .ok rfl

/-- The key `NoUrgent` keeps the case of its first two characters; `Urgent` is a filter and `xor` is
none. The second `now` wins in both sources. -/
theorem case_irrelevant_negation :
    let source := "[NoUrgent, Urgent] Close Now:a NOW:b | [xor] \x7bIconify\x7d"
    let source' := "[Nourgent, uRGENT] close nOW:a now:b | [xoR] \x7bICONIFY\x7d"
    let list : ActionList := [.conditional
      (some [⟨some ⟨⟨1, "urgent"⟩, true, none, .matching (·.state.urgent)⟩, .and⟩,
        ⟨some ⟨⟨1, "urgent"⟩, false, none, .matching (·.state.urgent)⟩, .or⟩])
      [.action ⟨⟨0, "Close", .single, false⟩, [("now", .text "b")], closeBehavior⟩]
      [.conditional (some [⟨none, .or⟩])
        [.action ⟨⟨2, "Iconify", .single, false⟩, [], iconifyBehavior⟩] []]]
    (builtin.parse source).result = .ok list ∧ (builtin.parse source').result = .ok list := by
  intro source source' list
  let tokens : List Token := [⟨.mark .leftBracket, ⟨1, 1⟩⟩, ⟨.word "NoUrgent", ⟨1, 2⟩⟩,
    ⟨.mark .comma, ⟨1, 10⟩⟩, ⟨.word "Urgent", ⟨1, 12⟩⟩, ⟨.mark .rightBracket, ⟨1, 18⟩⟩,
    ⟨.word "Close", ⟨1, 20⟩⟩, ⟨.word "Now", ⟨1, 26⟩⟩, ⟨.mark .colon, ⟨1, 29⟩⟩,
    ⟨.word "a", ⟨1, 30⟩⟩, ⟨.word "NOW", ⟨1, 32⟩⟩, ⟨.mark .colon, ⟨1, 35⟩⟩,
    ⟨.word "b", ⟨1, 36⟩⟩, ⟨.mark .pipe, ⟨1, 38⟩⟩, ⟨.mark .leftBracket, ⟨1, 40⟩⟩,
    ⟨.word "xor", ⟨1, 41⟩⟩, ⟨.mark .rightBracket, ⟨1, 44⟩⟩, ⟨.mark .leftBrace, ⟨1, 46⟩⟩,
    ⟨.word "Iconify", ⟨1, 47⟩⟩, ⟨.mark .rightBrace, ⟨1, 54⟩⟩]
  let tokens' : List Token := [⟨.mark .leftBracket, ⟨1, 1⟩⟩, ⟨.word "Nourgent", ⟨1, 2⟩⟩,
    ⟨.mark .comma, ⟨1, 10⟩⟩, ⟨.word "uRGENT", ⟨1, 12⟩⟩, ⟨.mark .rightBracket, ⟨1, 18⟩⟩,
    ⟨.word "close", ⟨1, 20⟩⟩, ⟨.word "nOW", ⟨1, 26⟩⟩, ⟨.mark .colon, ⟨1, 29⟩⟩,
    ⟨.word "a", ⟨1, 30⟩⟩, ⟨.word "now", ⟨1, 32⟩⟩, ⟨.mark .colon, ⟨1, 35⟩⟩,
    ⟨.word "b", ⟨1, 36⟩⟩, ⟨.mark .pipe, ⟨1, 38⟩⟩, ⟨.mark .leftBracket, ⟨1, 40⟩⟩,
    ⟨.word "xoR", ⟨1, 41⟩⟩, ⟨.mark .rightBracket, ⟨1, 44⟩⟩, ⟨.mark .leftBrace, ⟨1, 46⟩⟩,
    ⟨.word "ICONIFY", ⟨1, 47⟩⟩, ⟨.mark .rightBrace, ⟨1, 54⟩⟩]
  have hs : tokenize source = .ok ⟨tokens, ⟨1, 55⟩⟩ := by cbv
  have hs' : tokenize source' = .ok ⟨tokens', ⟨1, 55⟩⟩ := by cbv
  -- Any vocabulary with this filter will do for the tokens.
  have halike (v : Vocabulary) (hurgent : (v.filters.find? "Urgent").isSome = true) :
      v.caseVariation.AlikeTokens .start tokens tokens' :=
    .cons (.mark _) rfl <| .cons (.word ⟨by decide, .inr (by decide)⟩) rfl <|
    .cons (.mark _) rfl <| .cons (.word ⟨by decide, .inl hurgent⟩) rfl <|
    .cons (.mark _) rfl <| .cons (.word (by decide : sameName "Close" "close" = true)) rfl <|
    .cons (.word (by decide : sameName "Now" "nOW" = true)) rfl <| .cons (.mark _) rfl <|
    .cons (.word rfl) rfl <| .cons (.word (by decide : sameName "NOW" "now" = true)) rfl <|
    .cons (.mark _) rfl <| .cons (.word rfl) rfl <| .cons (.mark _) rfl <|
    .cons (.mark _) rfl <| .cons (.word ⟨by decide, .inr (by decide)⟩) rfl <|
    .cons (.mark _) rfl <| .cons (.mark _) rfl <|
    .cons (.word (by decide : sameName "Iconify" "ICONIFY" = true)) rfl <|
    .cons (.mark _) rfl .nil
  have hlist : (builtin.parse source).result = .ok list := by cbv
  have hsame := case_irrelevant builtin hs hs' ⟨halike builtin (by cbv), rfl⟩
  rw [hlist] at hsame
  obtain ⟨_, hlist', rfl⟩ := hsame.exists_ok
  exact ⟨hlist, hlist'⟩

end Vocabulary

end WindowActions
