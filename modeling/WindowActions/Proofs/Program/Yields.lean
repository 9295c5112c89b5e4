import WindowActions.Program.Read

/-!
# What readers of programs yield

`Yields` leaves out of a result what has to do with the length of the rest, which only the
recursion of the readers needs. The readers are taken apart and put together by the lemmas of this
module: first those on the ways in which readers are combined, then those that say what a reader
yields at tokens of a certain form.
-/

namespace WindowActions

/-- What has been read, and the tokens behind it. -/
def Yields {α : Type} {n : Nat} (result : Except Rejection (Reading Token α n)) (a : α)
    (rest : List Token) : Prop :=
  ∃ h, result = .ok ⟨a, rest, h⟩

section Yields

variable {α β : Type} {m n : Nat} {a : α} {b : β} {rest : List Token}

@[simp] theorem yields_ok {r : Reading Token α n} :
    Yields (.ok r) a rest ↔ r.value = a ∧ r.rest = rest := by
  obtain ⟨value, rest', h⟩ := r
  constructor
  · rintro ⟨h', heq⟩
    cases heq
    exact ⟨rfl, rfl⟩
  · rintro ⟨rfl, rfl⟩
    exact ⟨h, rfl⟩

@[simp] theorem not_yields_error {r : Rejection} :
    ¬Yields (.error r : Except Rejection (Reading Token α n)) a rest := by
  rintro ⟨h, heq⟩
  cases heq

@[simp] theorem not_yields_unexpected {stop : Position} {wanted : Expectation}
    {tokens : List Token} :
    ¬Yields (unexpected stop wanted tokens : Except Rejection (Reading Token α n)) a rest :=
  not_yields_error

theorem Yields.unique {result : Except Rejection (Reading Token α n)} {a' : α}
    {rest' : List Token} (h : Yields result a rest) (h' : Yields result a' rest') :
    a = a' ∧ rest = rest' := by
  obtain ⟨_, rfl⟩ := h
  exact yields_ok.1 h'

@[simp] theorem yields_widen {result : Except Rejection (Reading Token α m)} {h : m ≤ n} :
    Yields (result.map (·.widen h)) a rest ↔ Yields result a rest := by
  cases result with
  | error r => simp [Except.map]
  | ok r => simp [Except.map]

@[simp] theorem yields_map {result : Except Rejection (Reading Token α n)} {f : α → β} :
    Yields (result.map (·.map f)) b rest ↔ ∃ a, Yields result a rest ∧ f a = b := by
  cases result with
  | error r => simp [Except.map]
  | ok r =>
      simp only [Except.map, yields_ok]
      constructor
      · rintro ⟨rfl, rfl⟩
        exact ⟨_, ⟨rfl, rfl⟩, rfl⟩
      · rintro ⟨_, ⟨rfl, rfl⟩, rfl⟩
        exact ⟨rfl, rfl⟩

@[simp] theorem yields_map_widen {result : Except Rejection (Reading Token α m)} {f : α → β}
    {h : m ≤ n} :
    Yields (result.map fun r => (r.map f).widen h) b rest ↔
      ∃ a, Yields result a rest ∧ f a = b := by
  have hmap : (result.map fun r => (r.map f).widen h) =
      (result.map (·.map f)).map (·.widen h) := by
    cases result <;> rfl
  rw [hmap, yields_widen, yields_map]

@[simp] theorem yields_hearing {result : Except Rejection (Reading Token α n)}
    {phrases : List Phrase} : Yields (hearing phrases result) a rest ↔ Yields result a rest := by
  cases result with
  | error r => simp [hearing]
  | ok r => simp [hearing]

theorem yields_bind {result : Except Rejection (Reading Token β m)}
    {f : Reading Token β m → Except Rejection (Reading Token α n)} :
    Yields (result >>= f) a rest ↔
      ∃ b middle h, Yields result b middle ∧ Yields (f ⟨b, middle, h⟩) a rest := by
  constructor
  · intro h
    cases result with
    | error r => exact absurd h not_yields_error
    | ok r => exact ⟨r.value, r.rest, r.shorter, yields_ok.2 ⟨rfl, rfl⟩, h⟩
  · rintro ⟨b, middle, h, ⟨_, rfl⟩, hf⟩
    exact hf

@[simp] theorem yields_withDeeper {stop : Position} {deeper : Option β} {tokens : List Token}
    {read : β → Except Rejection (Reading Token α n)} :
    Yields (withDeeper stop deeper tokens read) a rest ↔
      ∃ reader, deeper = some reader ∧ Yields (read reader) a rest := by
  cases deeper with
  | none => simp [withDeeper]
  | some reader => simp [withDeeper]

end Yields

/-- Whether the first token is the mark `m`. -/
def startsWith (m : Mark) : List Token → Bool
  | ⟨.mark m', _⟩ :: _ => m' == m
  | _ => false

theorem startsWith_eq_true_iff {m : Mark} {tokens : List Token} :
    startsWith m tokens = true ↔ ∃ pos rest, tokens = ⟨.mark m, pos⟩ :: rest := by
  constructor
  · intro h
    unfold startsWith at h
    split at h
    next m' pos rest => exact ⟨pos, rest, by rw [eq_of_beq h]⟩
    next => cases h
  · rintro ⟨pos, rest, rfl⟩
    exact beq_self_eq_true m

theorem startsWith_eq_false {m : Mark} {tokens : List Token}
    (h : ∀ pos rest, tokens = ⟨.mark m, pos⟩ :: rest → False) : startsWith m tokens = false := by
  rw [← Bool.not_eq_true, startsWith_eq_true_iff]
  rintro ⟨pos, rest, heq⟩
  exact h pos rest heq

/-- Whether the first two tokens are those of an option. -/
def startsOption : List Token → Bool
  | ⟨.word _, _⟩ :: rest => startsWith .colon rest
  | _ => false

theorem startsWith_eq_false_of_ne {m m' : Mark} {tokens : List Token}
    (h : startsWith m tokens = true) (hne : m ≠ m') : startsWith m' tokens = false := by
  obtain ⟨pos, rest, rfl⟩ := startsWith_eq_true_iff.1 h
  exact beq_false_of_ne hne

section Readers

variable {stop : Position} {readOne : Reader Statement} {deeper : Option (Reader Statement)}
  {nested : Bool} {tokens rest : List Token}

/-- At a token that is no line end and no `;`, a list ends or goes on with a statement. -/
theorem readList_cons {kind : TokenKind} {pos : Position}
    (hnewline : kind ≠ .mark .newline) (hsemicolon : kind ≠ .mark .semicolon) :
    readList stop readOne nested (⟨kind, pos⟩ :: tokens) =
      if nested ∧ kind = .mark .rightBrace then
        .ok ⟨[], tokens, Nat.lt_succ_of_lt (Nat.lt_succ_self _)⟩
      else
        match readOne (⟨kind, pos⟩ :: tokens) with
        | .error e => .error e
        | .ok one =>
          (hearing [.statement one.value] (readList stop readOne nested one.rest)).map fun more =>
            (more.map (one.value :: ·)).widen (Nat.succ_le_succ (Nat.le_of_lt one.shorter)) := by
  rw [readList]
  · cases readOne (⟨kind, pos⟩ :: tokens) <;> rfl
  · intro pos heq
    exact hnewline (congrArg Token.kind heq)
  · intro pos heq
    exact hsemicolon (congrArg Token.kind heq)

theorem yields_readList_cons {s : Statement} {body : List Statement} {token : Token}
    {middle : List Token} (hnewline : token.kind ≠ .mark .newline)
    (hsemicolon : token.kind ≠ .mark .semicolon) (hbrace : token.kind ≠ .mark .rightBrace)
    (hone : Yields (readOne (token :: tokens)) s middle)
    (hmore : Yields (readList stop readOne nested middle) body rest) :
    Yields (readList stop readOne nested (token :: tokens)) (s :: body) rest := by
  obtain ⟨hshorter, hone⟩ := hone
  rw [readList_cons hnewline hsemicolon, if_neg fun hend => hbrace hend.2]
  simp only [hone, yields_map_widen, yields_hearing]
  exact ⟨body, hmore, rfl⟩

theorem yields_readOtherwise_none (h : startsWith .pipe tokens = false) :
    Yields (readOtherwise stop deeper tokens) none tokens := by
  unfold readOtherwise
  split
  next pos rest => cases h
  next => exact ⟨_, rfl⟩

theorem yields_readOptions_nil (h : startsOption tokens = false) :
    Yields (readOptions stop deeper tokens) [] tokens := by
  unfold readOptions
  split
  next name pos pos' rest => cases h
  next => exact ⟨_, rfl⟩

theorem yields_readOptions_cons {name : String} {pos pos' : Position} {operand : Operand}
    {options : List (String × Operand)} {middle : List Token}
    (hone : Yields (readOperand stop deeper tokens) operand middle)
    (hmore : Yields (readOptions stop deeper middle) options rest) :
    Yields (readOptions stop deeper (⟨.word name, pos⟩ :: ⟨.mark .colon, pos'⟩ :: tokens))
      ((name, operand) :: options) rest := by
  obtain ⟨hshorter, hone⟩ := hone
  rw [readOptions]
  simp only [hone, yields_map_widen, yields_hearing]
  exact ⟨options, hmore, rfl⟩

theorem yields_readTestOperand_none (h : startsWith .equals tokens = false) :
    Yields (readTestOperand stop deeper tokens) none tokens := by
  unfold readTestOperand
  split
  next pos rest => cases h
  next => exact ⟨_, rfl⟩

theorem yields_readTests_last {key : String} {pos : Position} {operand : Option Operand}
    (hgiven : Yields (readTestOperand stop deeper tokens) operand rest)
    (hrest : startsWith .rightBracket rest = true) :
    Yields (readTests stop deeper (⟨.word key, pos⟩ :: tokens)) [⟨key, operand, .or⟩] rest := by
  obtain ⟨hshorter, hgiven⟩ := hgiven
  obtain ⟨pos', more, rfl⟩ := startsWith_eq_true_iff.1 hrest
  rw [readTests]
  simp only [hgiven]
  exact ⟨_, rfl⟩

theorem yields_readTests_comma {key : String} {pos pos' : Position} {operand : Option Operand}
    {tests : List Test} {middle : List Token}
    (hgiven : Yields (readTestOperand stop deeper tokens) operand (⟨.mark .comma, pos'⟩ :: middle))
    (hmore : Yields (readTests stop deeper middle) tests rest) :
    Yields (readTests stop deeper (⟨.word key, pos⟩ :: tokens)) (⟨key, operand, .and⟩ :: tests)
      rest := by
  obtain ⟨hshorter, hgiven⟩ := hgiven
  rw [readTests]
  simp only [hgiven, yields_map_widen, yields_hearing]
  exact ⟨tests, hmore, rfl⟩

theorem yields_readTests_pipe {key : String} {pos pos' : Position} {operand : Option Operand}
    {tests : List Test} {middle : List Token}
    (hgiven : Yields (readTestOperand stop deeper tokens) operand (⟨.mark .pipe, pos'⟩ :: middle))
    (hmore : Yields (readTests stop deeper middle) tests rest) :
    Yields (readTests stop deeper (⟨.word key, pos⟩ :: tokens)) (⟨key, operand, .or⟩ :: tests)
      rest := by
  obtain ⟨hshorter, hgiven⟩ := hgiven
  rw [readTests]
  simp only [hgiven, yields_map_widen, yields_hearing]
  exact ⟨tests, hmore, rfl⟩

theorem yields_readChain_some {tests : List Test} (h : startsWith .rightBracket tokens = false)
    (htests : Yields (readTests stop deeper tokens) tests rest) :
    Yields (readChain stop deeper tokens) (some tests) rest := by
  unfold readChain
  split
  next pos rest => cases h
  next => exact yields_map_widen.2 ⟨tests, htests, rfl⟩

theorem yields_readRightBracket (h : Yields (readRightBracket stop tokens) () rest) :
    ∃ pos, tokens = ⟨.mark .rightBracket, pos⟩ :: rest := by
  unfold readRightBracket at h
  split at h
  next pos tokens =>
    obtain ⟨-, rfl⟩ := yields_ok.1 h
    exact ⟨pos, rfl⟩
  next => exact absurd h not_yields_unexpected

/-- A conditional is read from a chain, a bracket and one or two branches. -/
theorem yields_readConditional {s : Statement} :
    Yields (readConditional stop deeper tokens) s rest ↔
      ∃ test pos middle readOne accepted behind otherwise,
        s = .conditional test accepted otherwise ∧
        Yields (readChain stop deeper tokens) test (⟨.mark .rightBracket, pos⟩ :: middle) ∧
        deeper = some readOne ∧ Yields (readOne middle) accepted behind ∧
        Yields (readOtherwise stop deeper behind) otherwise rest := by
  simp only [readConditional, yields_bind, yields_hearing, yields_withDeeper]
  constructor
  · rintro ⟨test, bracket, hbracket, hchain, ⟨⟩, middle, hmiddle, hright, accepted, behind, hbehind,
      ⟨readOne, hdeeper, hfirst⟩, otherwise, rest', hrest, hsecond, h⟩
    obtain ⟨rfl, rfl⟩ := yields_ok.1 h
    obtain ⟨pos, rfl⟩ := yields_readRightBracket hright
    exact ⟨test, pos, middle, readOne, accepted, behind, otherwise, rfl, hchain, hdeeper, hfirst,
      hsecond⟩
  · rintro ⟨test, pos, middle, readOne, accepted, behind, otherwise, rfl, hchain, hdeeper, hfirst,
      hsecond⟩
    obtain ⟨hbracket, hchain⟩ := hchain
    obtain ⟨hbehind, hfirst⟩ := hfirst
    obtain ⟨hrest, hsecond⟩ := hsecond
    exact ⟨test, _, hbracket, ⟨_, hchain⟩, (), middle, Nat.lt_succ_self _, ⟨_, rfl⟩, accepted,
      behind, hbehind, ⟨readOne, hdeeper, _, hfirst⟩, otherwise, rest, hrest, ⟨_, hsecond⟩,
      yields_ok.2 ⟨rfl, rfl⟩⟩

end Readers

end WindowActions
