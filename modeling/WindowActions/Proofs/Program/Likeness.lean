import Mathlib.Data.Option.Basic
import WindowActions.Proofs.Program.Sound
import WindowActions.Proofs.Token.Places

/-!
# Reading tokens that are alike

The readers look at the kinds of tokens and never into words and texts. So if two sequences of
tokens are alike word by word, both are rejected at one token, or read as trees that are alike.

What a word has to have in common with its counterpart depends on what the word is: a name, a key
of a test, or an operand. `Site` finds this out from the marks in front of it. Where the readers
get to, it says what they take the next word for; behind an error it is a convention.

A `Variation` is a choice of relations for places and words, and a `Likeness` adds one for
statements. If it goes along with the constructors of statements, the readers preserve it
(`toProgram_like`).
-/

namespace WindowActions

inductive WordRole where
  /-- The name of an action or an option. -/
  | name
  /-- The key of a test. -/
  | key
  | operand
deriving DecidableEq, Repr

/-- The roles of words on all levels that are open, from the innermost one on. An operand that is
awaited is a level of its own. -/
abbrev Site := List WordRole

namespace Site

def start : Site := [.name]

/-- What the next word is. -/
def role (site : Site) : WordRole := site.headD .name

/-- The site once nothing is awaited any more. -/
def settled : Site → Site
  | .operand :: site => site
  | site => site

/-- The site behind a token. -/
def behind (site : Site) : TokenKind → Site
  | .mark .leftBracket => .key :: site.settled
  | .mark .leftBrace => .name :: site.settled
  | .mark .rightBracket | .mark .rightBrace => site.settled.tail
  | .mark .colon | .mark .equals => .operand :: site.settled
  | _ => site.settled

end Site

/-- How tokens may vary: relations for their places, and for the words that are names and keys. -/
structure Variation where
  place : Position → Position → Prop
  name : String → String → Prop
  key : String → String → Prop

namespace Variation

section Relations

variable (V : Variation)

/-- Words in a role are alike. Operands are alike only if they are the same. -/
def AlikeWords : WordRole → String → String → Prop
  | .name => V.name
  | .key => V.key
  | .operand => Eq

inductive AlikeKinds (role : WordRole) : TokenKind → TokenKind → Prop
  | word {chars chars' : String} (h : V.AlikeWords role chars chars') :
      AlikeKinds role (.word chars) (.word chars')
  | text (chars : String) : AlikeKinds role (.text chars) (.text chars)
  | mark (m : Mark) : AlikeKinds role (.mark m) (.mark m)

/-- Tokens that stand at a site are alike, each word in its role. -/
inductive AlikeTokens : Site → List Token → List Token → Prop
  | nil {site : Site} : AlikeTokens site [] []
  | cons {site : Site} {kind kind' : TokenKind} {pos pos' : Position} {rest rest' : List Token}
      (hkind : V.AlikeKinds site.role kind kind') (hpos : V.place pos pos')
      (hrest : AlikeTokens (site.behind kind) rest rest') :
      AlikeTokens site (⟨kind, pos⟩ :: rest) (⟨kind', pos'⟩ :: rest')

/-- All tokens of two texts are alike, and both texts end at related places. -/
structure AlikeStreams (stream stream' : TokenStream) : Prop where
  tokens : V.AlikeTokens .start stream.tokens stream'.tokens
  stop : V.place stream.stop stream'.stop

/-- The same is wrong, up to the spelling of a word that is found. -/
inductive AlikeFaults : SourceFault → SourceFault → Prop
  | refl (fault : SourceFault) : AlikeFaults fault fault
  | found {role : WordRole} {kind kind' : TokenKind} (wanted : Expectation)
      (h : V.AlikeKinds role kind kind') :
      AlikeFaults (.unexpected wanted (some kind)) (.unexpected wanted (some kind'))

end Relations

section Tokens

variable {V : Variation} {site : Site} {role : WordRole} {kind kind' : TokenKind} {m : Mark}
  {chars : String} {pos : Position} {rest tokens tokens' : List Token}

theorem AlikeKinds.mark_iff (h : V.AlikeKinds role kind kind') :
    kind = .mark m ↔ kind' = .mark m := by
  cases h <;> simp

theorem AlikeTokens.exists_mark (h : V.AlikeTokens site (⟨.mark m, pos⟩ :: rest) tokens') :
    ∃ pos' rest', tokens' = ⟨.mark m, pos'⟩ :: rest' ∧ V.place pos pos' ∧
      V.AlikeTokens (site.behind (.mark m)) rest rest' := by
  cases h with
  | cons hkind hpos hrest =>
      cases hkind
      exact ⟨_, _, rfl, hpos, hrest⟩

theorem AlikeTokens.exists_word (h : V.AlikeTokens site (⟨.word chars, pos⟩ :: rest) tokens') :
    ∃ chars' pos' rest', tokens' = ⟨.word chars', pos'⟩ :: rest' ∧
      V.AlikeWords site.role chars chars' ∧ V.AlikeTokens site.settled rest rest' := by
  cases h with
  | cons hkind hpos hrest =>
      cases hkind with
      | word hchars => exact ⟨_, _, _, rfl, hchars, hrest⟩

theorem AlikeTokens.exists_text (h : V.AlikeTokens site (⟨.text chars, pos⟩ :: rest) tokens') :
    ∃ pos' rest', tokens' = ⟨.text chars, pos'⟩ :: rest' ∧
      V.AlikeTokens site.settled rest rest' := by
  cases h with
  | cons hkind hpos hrest =>
      cases hkind
      exact ⟨_, _, rfl, hrest⟩

/-- A mark on the other side stands on this side, too. -/
theorem AlikeTokens.exists_mark_left (h : V.AlikeTokens site tokens (⟨.mark m, pos⟩ :: rest)) :
    ∃ pos' rest', tokens = ⟨.mark m, pos'⟩ :: rest' ∧
      V.AlikeTokens (site.behind (.mark m)) rest' rest := by
  cases h with
  | cons hkind hpos hrest =>
      cases hkind
      exact ⟨_, _, rfl, hrest⟩

theorem AlikeTokens.exists_word_left (h : V.AlikeTokens site tokens (⟨.word chars, pos⟩ :: rest)) :
    ∃ chars' pos' rest', tokens = ⟨.word chars', pos'⟩ :: rest' ∧
      V.AlikeTokens site.settled rest' rest := by
  cases h with
  | cons hkind hpos hrest =>
      cases hkind
      exact ⟨_, _, _, rfl, hrest⟩

theorem AlikeTokens.nextPosition {stop stop' : Position} (hstop : V.place stop stop')
    (h : V.AlikeTokens site tokens tokens') :
    V.place (nextPosition stop tokens) (WindowActions.nextPosition stop' tokens') := by
  cases h with
  | nil => exact hstop
  | cons _ hpos _ => exact hpos

end Tokens

end Variation

/-- A variation of tokens, and a relation for statements. -/
structure Likeness extends Variation where
  statement : Statement → Statement → Prop

namespace Likeness

section Relations

variable (L : Likeness)

inductive AlikeOperands : Operand → Operand → Prop
  | text (chars : String) : AlikeOperands (.text chars) (.text chars)
  | list {body body' : List Statement} (h : List.Forall₂ L.statement body body') :
      AlikeOperands (.list body) (.list body')

structure AlikeOptions (option option' : String × Operand) : Prop where
  name : L.name option.1 option'.1
  operand : L.AlikeOperands option.2 option'.2

structure AlikeTests (test test' : Test) : Prop where
  key : L.key test.key test'.key
  operand : Option.Rel L.AlikeOperands test.operand test'.operand
  joint : test.joint = test'.joint

inductive AlikePhrases : Phrase → Phrase → Prop
  | statement {s s' : Statement} (h : L.statement s s') :
      AlikePhrases (.statement s) (.statement s')
  | test {t t' : Test} (h : L.AlikeTests t t') : AlikePhrases (.test t) (.test t')

/-- The same is wrong at related places, and what is complete in front of it is alike. -/
structure AlikeRejections (r r' : Rejection) : Prop where
  pos : L.place r.error.pos r'.error.pos
  fault : L.AlikeFaults r.error.fault r'.error.fault
  heard : List.Forall₂ L.AlikePhrases r.heard r'.heard

/-- What has been read is alike, and so are the tokens that are left, at a site. -/
structure AlikeReadings {α : Type} {m n : Nat} (A : α → α → Prop) (site : Site)
    (x : Reading Token α m) (x' : Reading Token α n) : Prop where
  value : A x.value x'.value
  rest : L.AlikeTokens site x.rest x'.rest

/-- Both reject, or both read something and get to a site. -/
abbrev SameReading {α : Type} {m n : Nat} (A : α → α → Prop) (site : Site) :
    Except Rejection (Reading Token α m) → Except Rejection (Reading Token α n) → Prop :=
  SameOutcome L.AlikeRejections (L.AlikeReadings A site)

/-- Two readers of statements that do the same at tokens that are alike. -/
def AlikeReaders (read read' : Reader Statement) : Prop :=
  ∀ site tokens tokens', L.AlikeTokens (.name :: site) tokens tokens' →
    L.SameReading L.statement (.name :: site) (read tokens) (read' tokens')

/-- The relation of statements goes along with the constructors. -/
structure IsCongruence : Prop where
  action {name name' : String} {options options' : List (String × Operand)}
    (hname : L.name name name') (h : List.Forall₂ L.AlikeOptions options options') :
    L.statement (.action name options) (.action name' options')
  block {body body' : List Statement} (h : List.Forall₂ L.statement body body') :
    L.statement (.block body) (.block body')
  conditional {chain chain' : Option (List Test)} {accepted accepted' : Statement}
    {otherwise otherwise' : Option Statement}
    (hchain : Option.Rel (List.Forall₂ L.AlikeTests) chain chain')
    (haccepted : L.statement accepted accepted')
    (hotherwise : Option.Rel L.statement otherwise otherwise') :
    L.statement (.conditional chain accepted otherwise) (.conditional chain' accepted' otherwise')

end Relations

theorem AlikeOperands.phrases {L : Likeness} {operand operand' : Operand}
    (h : L.AlikeOperands operand operand') :
    List.Forall₂ L.AlikePhrases operand.phrases operand'.phrases := by
  cases h with
  | text => exact .nil
  | list h =>
      rw [Operand.phrases, Operand.phrases, List.forall₂_map_left_iff, List.forall₂_map_right_iff]
      exact h.imp fun _ _ => .statement

section Combined

variable {L : Likeness} {α β : Type} {A : α → α → Prop} {B : β → β → Prop} {site site' : Site}
  {m n m' n' : Nat} {stop stop' : Position} {tokens tokens' : List Token}
  {result : Except Rejection (Reading Token α m)} {result' : Except Rejection (Reading Token α n)}

theorem SameReading.widen (h : L.SameReading A site result result') {hm : m ≤ m'} {hn : n ≤ n'} :
    L.SameReading A site (result.map (·.widen hm)) (result'.map (·.widen hn)) :=
  SameOutcome.map h fun _ _ hx => ⟨hx.value, hx.rest⟩

theorem SameReading.map (h : L.SameReading A site result result') {f f' : α → β}
    (hf : ∀ a a', A a a' → B (f a) (f' a')) :
    L.SameReading B site (result.map (·.map f)) (result'.map (·.map f')) :=
  SameOutcome.map h fun _ _ hx => ⟨hf _ _ hx.value, hx.rest⟩

theorem SameReading.map_widen (h : L.SameReading A site result result') {f f' : α → β}
    (hf : ∀ a a', A a a' → B (f a) (f' a')) {hm : m ≤ m'} {hn : n ≤ n'} :
    L.SameReading B site (result.map fun r => (r.map f).widen hm)
      (result'.map fun r => (r.map f').widen hn) :=
  SameOutcome.map h fun _ _ hx => ⟨hf _ _ hx.value, hx.rest⟩

theorem SameReading.hearing (h : L.SameReading A site result result')
    {phrases phrases' : List Phrase} (hphrases : List.Forall₂ L.AlikePhrases phrases phrases') :
    L.SameReading A site (hearing phrases result) (WindowActions.hearing phrases' result') := by
  cases h with
  | error h => exact .error ⟨h.pos, h.fault, List.rel_append hphrases h.heard⟩
  | ok h => exact .ok h

theorem SameReading.bind {result' : Except Rejection (Reading Token α m')}
    (h : L.SameReading A site result result')
    {f : Reading Token α m → Except Rejection (Reading Token β n)}
    {f' : Reading Token α m' → Except Rejection (Reading Token β n')}
    (hf : ∀ x x', L.AlikeReadings A site x x' → L.SameReading B site' (f x) (f' x')) :
    L.SameReading B site' (result >>= f) (result' >>= f') := by
  cases h with
  | error h => exact .error h
  | ok h => exact hf _ _ h

theorem unexpected_like (hstop : L.place stop stop') (h : L.AlikeTokens site tokens tokens')
    (wanted : Expectation) :
    L.SameReading A site' (unexpected stop wanted tokens : Except Rejection (Reading Token α m))
      (unexpected stop' wanted tokens' : Except Rejection (Reading Token α n)) := by
  refine .error ⟨h.nextPosition hstop, ?_, .nil⟩
  cases h with
  | nil => exact .refl _
  | cons hkind => exact .found wanted hkind

theorem withDeeper_like (hstop : L.place stop stop') (h : L.AlikeTokens site tokens tokens')
    {deeper deeper' : Option (Reader Statement)}
    (hdeeper : Option.Rel L.AlikeReaders deeper deeper')
    {read : Reader Statement → Except Rejection (Reading Token α m)}
    {read' : Reader Statement → Except Rejection (Reading Token α n)}
    (hread : ∀ readOne readOne', L.AlikeReaders readOne readOne' →
      L.SameReading A site' (read readOne) (read' readOne')) :
    L.SameReading A site' (withDeeper stop deeper tokens read)
      (withDeeper stop' deeper' tokens' read') := by
  cases hdeeper with
  | none => exact .error ⟨h.nextPosition hstop, .refl _, .nil⟩
  | some hone => exact hread _ _ hone

end Combined

section Readers

variable {L : Likeness} {stop stop' : Position} {site : Site} {tokens tokens' : List Token}
  {readOne readOne' : Reader Statement} {deeper deeper' : Option (Reader Statement)}

theorem readList_like (hstop : L.place stop stop') (hone : L.AlikeReaders readOne readOne')
    (nested : Bool) (h : L.AlikeTokens (.name :: site) tokens tokens') :
    L.SameReading (List.Forall₂ L.statement) site (readList stop readOne nested tokens)
      (readList stop' readOne' nested tokens') := by
  fun_induction readList stop readOne nested tokens generalizing tokens' with
  | case1 hnested =>
      cases h
      rw [readList, if_pos hnested]
      exact unexpected_like hstop (.nil : L.AlikeTokens site [] []) _
  | case2 hnested =>
      cases h
      rw [readList, if_neg hnested]
      exact .ok ⟨.nil, .nil⟩
  | case3 pos rest ih =>
      obtain ⟨pos', rest', rfl, -, hrest⟩ := h.exists_mark
      rw [readList]
      exact (ih hrest).widen
  | case4 pos rest ih =>
      obtain ⟨pos', rest', rfl, -, hrest⟩ := h.exists_mark
      rw [readList]
      exact (ih hrest).widen
  | case5 token rest hnewline hsemicolon hclose =>
      obtain ⟨hnested, hbrace⟩ := hclose
      obtain ⟨kind, pos⟩ := token
      obtain rfl : kind = .mark .rightBrace := hbrace
      obtain ⟨pos', rest', rfl, -, hrest⟩ := h.exists_mark
      rw [readList_cons (by simp) (by simp), if_pos ⟨hnested, rfl⟩]
      exact .ok ⟨.nil, hrest⟩
  | case6 token rest hnewline hsemicolon hclose e he =>
      obtain ⟨e', he', halike⟩ := (he ▸ hone _ _ _ h).exists_error
      obtain ⟨kind, pos⟩ := token
      cases h with
      | cons hkind hpos hrest =>
          rw [readList_cons (hkind.mark_iff.not.1 fun hk => hnewline pos (by rw [hk]))
            (hkind.mark_iff.not.1 fun hk => hsemicolon pos (by rw [hk])),
            if_neg fun hend => hclose ⟨hend.1, hkind.mark_iff.2 hend.2⟩, he']
          exact .error halike
  | case7 token rest hnewline hsemicolon hclose one hone' hshorter ih =>
      obtain ⟨one', hone', halike⟩ := (hone' ▸ hone _ _ _ h).exists_ok
      obtain ⟨kind, pos⟩ := token
      cases h with
      | cons hkind hpos hrest =>
          rw [readList_cons (hkind.mark_iff.not.1 fun hk => hnewline pos (by rw [hk]))
            (hkind.mark_iff.not.1 fun hk => hsemicolon pos (by rw [hk])),
            if_neg fun hend => hclose ⟨hend.1, hkind.mark_iff.2 hend.2⟩, hone']
          exact ((ih halike.rest).hearing (.cons (.statement halike.value) .nil)).map_widen
            fun _ _ hmore => .cons halike.value hmore

variable (hstop : L.place stop stop') (hdeeper : Option.Rel L.AlikeReaders deeper deeper')

include hstop hdeeper

theorem readOperand_like (h : L.AlikeTokens (.operand :: site) tokens tokens') :
    L.SameReading L.AlikeOperands site (readOperand stop deeper tokens)
      (readOperand stop' deeper' tokens') := by
  match tokens with
  | [] =>
      cases h
      exact unexpected_like hstop (.nil : L.AlikeTokens site [] []) _
  | ⟨.word chars, pos⟩ :: rest =>
      obtain ⟨_, pos', rest', rfl, rfl, hrest⟩ := h.exists_word
      exact .ok ⟨.text chars, hrest⟩
  | ⟨.text chars, pos⟩ :: rest =>
      obtain ⟨pos', rest', rfl, hrest⟩ := h.exists_text
      exact .ok ⟨.text chars, hrest⟩
  | ⟨.mark m, pos⟩ :: rest =>
      obtain ⟨pos', rest', rfl, -, hrest⟩ := h.exists_mark
      match m with
      | .leftBrace =>
          exact withDeeper_like hstop hrest hdeeper fun _ _ hone =>
            (readList_like hstop hone true hrest).map fun _ _ => .list
      | .rightBrace | .leftBracket | .rightBracket | .pipe | .comma | .semicolon | .colon
      | .equals | .newline => exact unexpected_like hstop h _

theorem readOptions_like (h : L.AlikeTokens (.name :: site) tokens tokens') :
    L.SameReading (List.Forall₂ L.AlikeOptions) (.name :: site) (readOptions stop deeper tokens)
      (readOptions stop' deeper' tokens') := by
  fun_induction readOptions stop deeper tokens generalizing tokens' with
  | case1 name pos pos' tokens e he =>
      obtain ⟨_, _, _, rfl, -, hcolon⟩ := h.exists_word
      obtain ⟨_, _, rfl, -, hrest⟩ := hcolon.exists_mark
      obtain ⟨e', he', halike⟩ := (he ▸ readOperand_like hstop hdeeper hrest).exists_error
      rw [readOptions]
      simp only [he']
      exact .error halike
  | case2 name pos pos' tokens operand hone hshorter ih =>
      obtain ⟨_, _, _, rfl, hname, hcolon⟩ := h.exists_word
      obtain ⟨_, _, rfl, -, hrest⟩ := hcolon.exists_mark
      obtain ⟨operand', hone', halike⟩ :=
        (hone ▸ readOperand_like hstop hdeeper hrest).exists_ok
      rw [readOptions]
      simp only [hone']
      exact ((ih halike.rest).hearing halike.value.phrases).map_widen
        fun _ _ hmore => .cons ⟨hname, halike.value⟩ hmore
  | case3 tokens hnone =>
      rw [readOptions]
      · exact .ok ⟨.nil, h⟩
      · rintro name pos pos' rest' rfl
        obtain ⟨_, _, _, rfl, hcolon⟩ := h.exists_word_left
        obtain ⟨_, _, rfl, -⟩ := hcolon.exists_mark_left
        exact hnone _ _ _ _ rfl

theorem readTestOperand_like (h : L.AlikeTokens (.key :: site) tokens tokens') :
    L.SameReading (Option.Rel L.AlikeOperands) (.key :: site) (readTestOperand stop deeper tokens)
      (readTestOperand stop' deeper' tokens') := by
  match tokens with
  | [] =>
      cases h
      exact .ok ⟨.none, .nil⟩
  | ⟨.word _, pos⟩ :: rest =>
      obtain ⟨_, _, _, rfl, -, -⟩ := h.exists_word
      exact .ok ⟨.none, h⟩
  | ⟨.text _, pos⟩ :: rest =>
      obtain ⟨_, _, rfl, -⟩ := h.exists_text
      exact .ok ⟨.none, h⟩
  | ⟨.mark m, pos⟩ :: rest =>
      obtain ⟨_, _, rfl, -, hrest⟩ := h.exists_mark
      match m with
      | .equals =>
          exact (readOperand_like hstop hdeeper hrest).map_widen fun _ _ => .some
      | .leftBrace | .rightBrace | .leftBracket | .rightBracket | .pipe | .comma | .semicolon
      | .colon | .newline => exact .ok ⟨.none, h⟩

theorem readTests_like (h : L.AlikeTokens (.key :: site) tokens tokens') :
    L.SameReading (List.Forall₂ L.AlikeTests) (.key :: site) (readTests stop deeper tokens)
      (readTests stop' deeper' tokens') := by
  fun_induction readTests stop deeper tokens generalizing tokens' with
  | case1 key pos tokens e he =>
      obtain ⟨_, _, _, rfl, -, hrest⟩ := h.exists_word
      obtain ⟨e', he', halike⟩ := (he ▸ readTestOperand_like hstop hdeeper hrest).exists_error
      rw [readTests]
      simp only [he']
      exact .error halike
  | case2 key pos tokens operand hgiven hshorter pos' behind hbehind hshorter' test =>
      rename_i ih
      obtain ⟨_, _, _, rfl, hkey, hrest⟩ := h.exists_word
      obtain ⟨⟨value, left, hleft⟩, hgiven', hvalue, hmore⟩ :=
        (hgiven ▸ readTestOperand_like hstop hdeeper hrest).exists_ok
      obtain ⟨_, _, rfl, -, hmore⟩ := (hbehind ▸ hmore).exists_mark
      have htest : L.AlikeTests ⟨_, _, .and⟩ ⟨_, _, .and⟩ := ⟨hkey, hvalue, rfl⟩
      rw [readTests]
      simp only [hgiven']
      exact ((ih hmore).hearing (.cons (.test htest) .nil)).map_widen fun _ _ => .cons htest
  | case3 key pos tokens operand hgiven hshorter pos' behind hbehind hshorter' test =>
      rename_i ih
      obtain ⟨_, _, _, rfl, hkey, hrest⟩ := h.exists_word
      obtain ⟨⟨value, left, hleft⟩, hgiven', hvalue, hmore⟩ :=
        (hgiven ▸ readTestOperand_like hstop hdeeper hrest).exists_ok
      obtain ⟨_, _, rfl, -, hmore⟩ := (hbehind ▸ hmore).exists_mark
      have htest : L.AlikeTests ⟨_, _, .or⟩ ⟨_, _, .or⟩ := ⟨hkey, hvalue, rfl⟩
      rw [readTests]
      simp only [hgiven']
      exact ((ih hmore).hearing (.cons (.test htest) .nil)).map_widen fun _ _ => .cons htest
  | case4 key pos tokens operand hgiven hshorter hcomma hpipe =>
      obtain ⟨_, _, _, rfl, hkey, hrest⟩ := h.exists_word
      obtain ⟨⟨value, left, hleft⟩, hgiven', hvalue, hmore⟩ :=
        (hgiven ▸ readTestOperand_like hstop hdeeper hrest).exists_ok
      rw [readTests]
      simp only [hgiven']
      -- Neither `,` nor `|` stands behind the operand on one side, so neither does on the other.
      split
      · obtain ⟨_, _, hrest, -⟩ := hmore.exists_mark_left
        exact absurd hrest (hcomma _ _)
      · obtain ⟨_, _, hrest, -⟩ := hmore.exists_mark_left
        exact absurd hrest (hpipe _ _)
      · exact .ok ⟨.cons ⟨hkey, hvalue, rfl⟩ .nil, hmore⟩
  | case5 tokens hnone =>
      rw [readTests]
      · exact unexpected_like hstop h _
      · rintro key pos rest' rfl
        obtain ⟨_, _, _, rfl, -⟩ := h.exists_word_left
        exact hnone _ _ _ rfl

theorem readChain_like (h : L.AlikeTokens (.key :: site) tokens tokens') :
    L.SameReading (Option.Rel (List.Forall₂ L.AlikeTests)) (.key :: site)
      (readChain stop deeper tokens) (readChain stop' deeper' tokens') := by
  match tokens with
  | [] =>
      cases h
      exact (readTests_like hstop hdeeper .nil).map_widen fun _ _ => .some
  | ⟨.word _, pos⟩ :: rest =>
      obtain ⟨_, _, _, rfl, -, -⟩ := h.exists_word
      exact (readTests_like hstop hdeeper h).map_widen fun _ _ => .some
  | ⟨.text _, pos⟩ :: rest =>
      obtain ⟨_, _, rfl, -⟩ := h.exists_text
      exact (readTests_like hstop hdeeper h).map_widen fun _ _ => .some
  | ⟨.mark m, pos⟩ :: rest =>
      obtain ⟨_, _, rfl, -, hrest⟩ := h.exists_mark
      match m with
      | .rightBracket => exact .ok ⟨.none, h⟩
      | .leftBrace | .rightBrace | .leftBracket | .equals | .pipe | .comma | .semicolon
      | .colon | .newline =>
          exact (readTests_like hstop hdeeper h).map_widen fun _ _ => .some

omit hdeeper in
theorem readRightBracket_like (h : L.AlikeTokens (.key :: site) tokens tokens') :
    L.SameReading Eq site (readRightBracket stop tokens) (readRightBracket stop' tokens') := by
  match tokens with
  | [] =>
      cases h
      exact unexpected_like hstop (.nil : L.AlikeTokens site [] []) _
  | ⟨.word _, pos⟩ :: rest =>
      obtain ⟨_, _, _, rfl, -, -⟩ := h.exists_word
      exact unexpected_like hstop h _
  | ⟨.text _, pos⟩ :: rest =>
      obtain ⟨_, _, rfl, -⟩ := h.exists_text
      exact unexpected_like hstop h _
  | ⟨.mark m, pos⟩ :: rest =>
      obtain ⟨_, _, rfl, -, hrest⟩ := h.exists_mark
      match m with
      | .rightBracket => exact .ok ⟨rfl, hrest⟩
      | .leftBrace | .rightBrace | .leftBracket | .equals | .pipe | .comma | .semicolon
      | .colon | .newline => exact unexpected_like hstop h _

theorem readOtherwise_like (h : L.AlikeTokens (.name :: site) tokens tokens') :
    L.SameReading (Option.Rel L.statement) (.name :: site) (readOtherwise stop deeper tokens)
      (readOtherwise stop' deeper' tokens') := by
  match tokens with
  | [] =>
      cases h
      exact .ok ⟨.none, .nil⟩
  | ⟨.word _, pos⟩ :: rest =>
      obtain ⟨_, _, _, rfl, -, -⟩ := h.exists_word
      exact .ok ⟨.none, h⟩
  | ⟨.text _, pos⟩ :: rest =>
      obtain ⟨_, _, rfl, -⟩ := h.exists_text
      exact .ok ⟨.none, h⟩
  | ⟨.mark m, pos⟩ :: rest =>
      obtain ⟨_, _, rfl, -, hrest⟩ := h.exists_mark
      match m with
      | .pipe =>
          exact withDeeper_like hstop hrest hdeeper fun _ _ hone =>
            SameReading.map_widen (hone _ _ _ hrest) fun _ _ => .some
      | .leftBrace | .rightBrace | .leftBracket | .rightBracket | .equals | .comma | .semicolon
      | .colon | .newline => exact .ok ⟨.none, h⟩

omit hstop hdeeper in
/-- The tests of a chain are heard, whether there is a chain or not. -/
theorem forall₂_tests {chain chain' : Option (List Test)}
    (h : Option.Rel (List.Forall₂ L.AlikeTests) chain chain') :
    List.Forall₂ L.AlikePhrases ((chain.getD []).map .test) ((chain'.getD []).map .test) := by
  cases h with
  | none => exact .nil
  | some htests =>
      rw [Option.getD_some, Option.getD_some, List.forall₂_map_left_iff,
        List.forall₂_map_right_iff]
      exact htests.imp fun _ _ => .test

variable (hL : L.IsCongruence)

include hL

theorem readConditional_like (h : L.AlikeTokens (.key :: .name :: site) tokens tokens') :
    L.SameReading L.statement (.name :: site) (readConditional stop deeper tokens)
      (readConditional stop' deeper' tokens') := by
  refine (readChain_like hstop hdeeper h).bind fun chain chain' hchain => ?_
  have htests := forall₂_tests hchain.value
  refine ((readRightBracket_like hstop hchain.rest).hearing htests).bind fun _ _ hbracket => ?_
  refine ((withDeeper_like hstop hbracket.rest hdeeper fun _ _ hone =>
    hone _ _ _ hbracket.rest).hearing htests).bind fun accepted accepted' haccepted => ?_
  have hheard := List.rel_append htests (.cons (.statement haccepted.value) .nil)
  refine ((readOtherwise_like hstop hdeeper haccepted.rest).hearing hheard).bind
    fun otherwise otherwise' hotherwise => ?_
  exact .ok ⟨hL.conditional hchain.value haccepted.value hotherwise.value, hotherwise.rest⟩

theorem readStatementWith_like (h : L.AlikeTokens (.name :: site) tokens tokens') :
    L.SameReading L.statement (.name :: site) (readStatementWith stop deeper tokens)
      (readStatementWith stop' deeper' tokens') := by
  match tokens with
  | [] =>
      cases h
      exact unexpected_like hstop (.nil : L.AlikeTokens site [] []) _
  | ⟨.word name, pos⟩ :: rest =>
      obtain ⟨_, _, _, rfl, hname, hrest⟩ := h.exists_word
      exact (readOptions_like hstop hdeeper hrest).map fun _ _ => hL.action hname
  | ⟨.text _, pos⟩ :: rest =>
      obtain ⟨_, _, rfl, -⟩ := h.exists_text
      exact unexpected_like hstop h _
  | ⟨.mark m, pos⟩ :: rest =>
      obtain ⟨_, _, rfl, -, hrest⟩ := h.exists_mark
      match m with
      | .leftBracket => exact (readConditional_like hstop hdeeper hL hrest).widen
      | .leftBrace =>
          exact withDeeper_like hstop hrest hdeeper fun _ _ hone =>
            (readList_like hstop hone true hrest).map fun _ _ => hL.block
      | .rightBrace | .rightBracket | .equals | .pipe | .comma | .semicolon | .colon
      | .newline => exact unexpected_like hstop h _

end Readers

section Programs

variable {L : Likeness} {stop stop' : Position}

theorem readStatement_like (hL : L.IsCongruence) (hstop : L.place stop stop') (levels : Nat) :
    L.AlikeReaders (readStatement stop levels) (readStatement stop' levels) := by
  induction levels with
  | zero => exact fun _ _ _ h => readStatementWith_like hstop .none hL h
  | succ levels ih => exact fun _ _ _ h => readStatementWith_like hstop (.some ih) hL h

/-- Tokens that are alike are read as programs that are alike, or rejected alike. -/
theorem toProgram_like (hL : L.IsCongruence) {stream stream' : TokenStream}
    (h : L.AlikeStreams stream stream') :
    SameOutcome L.AlikeRejections (List.Forall₂ L.statement) stream.toProgram
      stream'.toProgram :=
  SameOutcome.map
    (readList_like h.stop (readStatement_like hL h.stop maxNesting) false h.tokens)
    fun _ _ hx => hx.value

end Programs

end Likeness

end WindowActions
