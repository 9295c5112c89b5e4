import WindowActions.Proofs.Program.Likeness

/-!
# Reading the same tokens at other places

Places go into the errors of the readers and into nothing else. So from tokens of the same kinds the
readers give back the same, or they reject tokens at related places for the same reason. What they
have read in front of an error is the same, too.

This is the likeness by which nothing but places may differ.
-/

namespace WindowActions

section Equal

variable (R : Position → Position → Prop)

/-- The variation of nothing but places. -/
def Variation.ofPlaces : Variation := ⟨R, Eq, Eq⟩

/-- The likeness by which everything is the same but for its place. -/
def Likeness.equal : Likeness := ⟨.ofPlaces R, Eq⟩

/-- The same fault at related places, with the same in front of it. -/
structure Rejection.Alike (r r' : Rejection) : Prop where
  error : SourceError.Alike R r.error r'.error
  heard : r.heard = r'.heard

end Equal

section Equal

variable {R : Position → Position → Prop} {role : WordRole}

theorem eq_of_forall₂ {α : Type} {S : α → α → Prop} (hS : ∀ a a', S a a' → a = a')
    {as as' : List α} (h : List.Forall₂ S as as') : as = as' :=
  List.forall₂_eq_eq_eq ▸ h.imp hS

theorem eq_of_optionRel {α : Type} {S : α → α → Prop} (hS : ∀ a a', S a a' → a = a')
    {a a' : Option α} (h : Option.Rel S a a') : a = a' := by
  cases h with
  | none => rfl
  | some h => rw [hS _ _ h]

namespace Variation

theorem alikeWords_ofPlaces_iff {chars chars' : String} :
    (ofPlaces R).AlikeWords role chars chars' ↔ chars = chars' := by
  cases role <;> rfl

theorem alikeKinds_ofPlaces_iff {kind kind' : TokenKind} :
    (ofPlaces R).AlikeKinds role kind kind' ↔ kind = kind' := by
  constructor
  · rintro (hchars | _ | _)
    · rw [alikeWords_ofPlaces_iff.1 hchars]
    · rfl
    · rfl
  · rintro rfl
    cases kind with
    | word chars => exact .word (alikeWords_ofPlaces_iff.2 rfl)
    | text chars => exact .text chars
    | mark m => exact .mark m

/-- Which roles the words have does not matter if they are the same. -/
theorem alikeTokens_ofPlaces (site : Site) {tokens tokens' : List Token}
    (h : List.Forall₂ (Token.Alike R) tokens tokens') :
    (ofPlaces R).AlikeTokens site tokens tokens' := by
  induction h generalizing site with
  | nil => exact .nil
  | cons hone _ ih => exact .cons (alikeKinds_ofPlaces_iff.2 hone.kind) hone.pos (ih _)

theorem AlikeFaults.eq {fault fault' : SourceFault}
    (h : (ofPlaces R).AlikeFaults fault fault') : fault = fault' := by
  cases h with
  | refl => rfl
  | found wanted hkind => rw [alikeKinds_ofPlaces_iff.1 hkind]

end Variation

namespace Likeness

theorem AlikeOperands.eq {operand operand' : Operand}
    (h : (equal R).AlikeOperands operand operand') : operand = operand' := by
  cases h with
  | text chars => rfl
  | list h => exact congrArg Operand.list (eq_of_forall₂ (fun _ _ => id) h)

theorem AlikeTests.eq {t t' : Test} (h : (equal R).AlikeTests t t') : t = t' := by
  obtain ⟨key, operand, joint⟩ := t
  obtain ⟨key', operand', joint'⟩ := t'
  obtain ⟨rfl, hoperand, rfl⟩ := h
  obtain rfl : operand = operand' := eq_of_optionRel (fun _ _ => AlikeOperands.eq) hoperand
  rfl

theorem AlikePhrases.eq {phrase phrase' : Phrase} (h : (equal R).AlikePhrases phrase phrase') :
    phrase = phrase' := by
  cases h with
  | statement hs => exact congrArg Phrase.statement hs
  | test ht => exact congrArg Phrase.test ht.eq

theorem AlikeRejections.alike {r r' : Rejection} (h : (equal R).AlikeRejections r r') :
    Rejection.Alike R r r' :=
  ⟨⟨h.fault.eq, h.pos⟩, eq_of_forall₂ (fun _ _ => AlikePhrases.eq) h.heard⟩

theorem equal_isCongruence : (equal R).IsCongruence where
  action hname h := congrArg₂ Statement.action hname
    (eq_of_forall₂ (fun _ _ hone => Prod.ext hone.name hone.operand.eq) h)
  block h := congrArg Statement.block (eq_of_forall₂ (fun _ _ => id) h)
  conditional hchain haccepted hotherwise := by
    obtain rfl := eq_of_optionRel (fun _ _ => eq_of_forall₂ fun _ _ => AlikeTests.eq) hchain
    obtain rfl := haccepted
    obtain rfl := eq_of_optionRel (fun _ _ => id) hotherwise
    rfl

end Likeness

end Equal

section Programs

variable {R : Position → Position → Prop} {stream stream' : TokenStream}

/-- The same tokens at related places are the same program, or are rejected at related places. -/
theorem TokenStream.Alike.toProgram (h : TokenStream.Alike R stream stream') :
    SameOutcome (Rejection.Alike R) Eq stream.toProgram stream'.toProgram := by
  have hstreams : (Variation.ofPlaces R).AlikeStreams stream stream' :=
    ⟨Variation.alikeTokens_ofPlaces .start h.tokens, h.stop⟩
  have hprograms := Likeness.toProgram_like Likeness.equal_isCongruence hstreams
  generalize stream.toProgram = program, stream'.toProgram = program' at hprograms
  cases hprograms with
  | error hr => exact .error hr.alike
  | ok hp => exact .ok (eq_of_forall₂ (fun _ _ => id) hp)

end Programs

end WindowActions
