import WindowActions.Program.Basic
import WindowActions.Reading
import WindowActions.SourceError

/-!
# From tokens to programs

Every reader takes the tokens that are left and gives back those behind what it has read. Nesting
is limited: a reader of statements is built from the reader one level further in, and on the last
level there is none. So the recursion follows the levels that remain, and on one level the tokens.

A rejection tells what was complete in front of the error. Names are looked up in the order in
which actions and tests are completed, so also a program that is rejected has had some of them
looked up.
-/

namespace WindowActions

/-- An action or a test that has been read completely. -/
inductive Phrase where
  | statement (statement : Statement)
  | test (test : Test)

/-- An error, and the phrases that are complete in front of it, in the order of their ends. -/
structure Rejection where
  error : SourceError
  heard : List Phrase

abbrev Reader (α : Type) := (tokens : List Token) → Except Rejection (Reading Token α tokens.length)

abbrev OptionalReader (α : Type) :=
  (tokens : List Token) → Except Rejection (Reading Token α (tokens.length + 1))

/-- A result that comes after `phrases` have been read. -/
def hearing {α : Type} (phrases : List Phrase) : Except Rejection α → Except Rejection α
  | .ok a => .ok a
  | .error r => .error ⟨r.error, phrases ++ r.heard⟩

def Operand.phrases : Operand → List Phrase
  | .text _ => []
  | .list body => body.map .statement

section Readers

variable (stop : Position)

def nextPosition : List Token → Position
  | [] => stop
  | token :: _ => token.pos

/-- Rejects the next token because something else is wanted. -/
def unexpected {α : Type} (wanted : Expectation) (tokens : List Token) : Except Rejection α :=
  .error ⟨⟨nextPosition stop tokens, .unexpected wanted (tokens.head?.map (·.kind))⟩, []⟩

/-- Uses the reader one level further in, or rejects the next token if there is none. -/
def withDeeper {α β : Type} (deeper : Option α) (tokens : List Token)
    (read : α → Except Rejection β) : Except Rejection β :=
  match deeper with
  | some reader => read reader
  | none => .error ⟨⟨nextPosition stop tokens, .nestingTooDeep⟩, []⟩

/-- Reads the statements of a list. A nested list ends with its closing brace, which is taken too,
any other list with the last token. -/
def readList (readOne : Reader Statement) (nested : Bool) : OptionalReader (List Statement)
  | [] =>
    if nested then unexpected stop .rightBrace []
    else .ok ⟨[], [], Nat.zero_lt_one⟩
  | ⟨.mark .newline, _⟩ :: rest | ⟨.mark .semicolon, _⟩ :: rest =>
    (readList readOne nested rest).map (·.widen (Nat.le_succ _))
  | token :: rest =>
    if nested ∧ token.kind = .mark .rightBrace then
      .ok ⟨[], rest, Nat.lt_succ_of_lt (Nat.lt_succ_self _)⟩
    else
      match readOne (token :: rest) with
      | .error e => .error e
      | .ok one =>
        have := one.shorter
        (hearing [.statement one.value] (readList readOne nested one.rest)).map fun more =>
          (more.map (one.value :: ·)).widen (Nat.succ_le_succ (Nat.le_of_lt one.shorter))
termination_by tokens => tokens.length
decreasing_by
  · exact Nat.lt_succ_self _
  · exact Nat.lt_succ_self _
  · assumption

def readOperand (deeper : Option (Reader Statement)) : Reader Operand
  | ⟨.word chars, _⟩ :: rest | ⟨.text chars, _⟩ :: rest =>
    .ok ⟨.text chars, rest, Nat.lt_succ_self _⟩
  | ⟨.mark .leftBrace, _⟩ :: rest =>
    withDeeper stop deeper rest fun readOne =>
      (readList stop readOne true rest).map (·.map .list)
  | tokens => unexpected stop .value tokens

/-- Reads the options behind the name of an action: as long as a word with a colon follows. -/
def readOptions (deeper : Option (Reader Statement)) : OptionalReader (List (String × Operand))
  | ⟨.word name, _⟩ :: ⟨.mark .colon, _⟩ :: rest =>
    match readOperand stop deeper rest with
    | .error e => .error e
    | .ok operand =>
      have := operand.shorter
      (hearing operand.value.phrases (readOptions deeper operand.rest)).map fun more =>
        (more.map ((name, operand.value) :: ·)).widen (by simp only [List.length_cons]; omega)
  | tokens => .ok ⟨[], tokens, Nat.lt_succ_self _⟩
termination_by tokens => tokens.length
decreasing_by simp only [List.length_cons]; omega

/-- Reads the operand of a test, if there is one. -/
def readTestOperand (deeper : Option (Reader Statement)) : OptionalReader (Option Operand)
  | ⟨.mark .equals, _⟩ :: rest =>
    (readOperand stop deeper rest).map fun operand =>
      (operand.map some).widen (Nat.le_succ_of_le (Nat.le_succ _))
  | tokens => .ok ⟨none, tokens, Nat.lt_succ_self _⟩

def readTests (deeper : Option (Reader Statement)) : Reader (List Test)
  | ⟨.word key, _⟩ :: rest =>
    match readTestOperand stop deeper rest with
    | .error e => .error e
    | .ok operand =>
      have := operand.shorter
      match h : operand.rest with
      | ⟨.mark .comma, _⟩ :: behind =>
        have : behind.length < rest.length := by simp [h] at this; omega
        let test : Test := ⟨key, operand.value, .and⟩
        (hearing [.test test] (readTests deeper behind)).map fun more =>
          (more.map (test :: ·)).widen (by simp only [List.length_cons]; omega)
      | ⟨.mark .pipe, _⟩ :: behind =>
        have : behind.length < rest.length := by simp [h] at this; omega
        let test : Test := ⟨key, operand.value, .or⟩
        (hearing [.test test] (readTests deeper behind)).map fun more =>
          (more.map (test :: ·)).widen (by simp only [List.length_cons]; omega)
      | _ => .ok ⟨[⟨key, operand.value, .or⟩], operand.rest, by simpa using operand.shorter⟩
  | tokens => unexpected stop .name tokens
termination_by tokens => tokens.length
decreasing_by all_goals simp only [List.length_cons]; omega

/-- Reads what stands between brackets: nothing, or a chain of tests. -/
def readChain (deeper : Option (Reader Statement)) : OptionalReader (Option (List Test))
  | ⟨.mark .rightBracket, pos⟩ :: rest =>
    .ok ⟨none, ⟨.mark .rightBracket, pos⟩ :: rest, Nat.lt_succ_self _⟩
  | tokens =>
    (readTests stop deeper tokens).map fun tests =>
      (tests.map some).widen (Nat.le_succ _)

def readRightBracket : Reader Unit
  | ⟨.mark .rightBracket, _⟩ :: rest => .ok ⟨(), rest, Nat.lt_succ_self _⟩
  | tokens => unexpected stop .rightBracket tokens

/-- Reads a branch for when no client passes the test, if there is one. -/
def readOtherwise (deeper : Option (Reader Statement)) : OptionalReader (Option Statement)
  | ⟨.mark .pipe, _⟩ :: rest =>
    withDeeper stop deeper rest fun readOne =>
      (readOne rest).map fun branch =>
        (branch.map some).widen (Nat.le_succ_of_le (Nat.le_succ _))
  | tokens => .ok ⟨none, tokens, Nat.lt_succ_self _⟩

/-- Reads a conditional from behind its opening bracket. -/
def readConditional (deeper : Option (Reader Statement)) : Reader Statement := fun tokens => do
  let chain ← readChain stop deeper tokens
  let tests := (chain.value.getD []).map Phrase.test
  let bracket ← hearing tests (readRightBracket stop chain.rest)
  let accepted ← hearing tests (withDeeper stop deeper bracket.rest (· bracket.rest))
  let otherwise ←
    hearing (tests ++ [.statement accepted.value]) (readOtherwise stop deeper accepted.rest)
  return ⟨.conditional chain.value accepted.value otherwise.value, otherwise.rest, by
    have := chain.shorter
    have := bracket.shorter
    have := accepted.shorter
    have := otherwise.shorter
    omega⟩

def readStatementWith (deeper : Option (Reader Statement)) : Reader Statement
  | ⟨.mark .leftBracket, _⟩ :: rest =>
    (readConditional stop deeper rest).map (·.widen (Nat.le_succ _))
  | ⟨.mark .leftBrace, _⟩ :: rest =>
    withDeeper stop deeper rest fun readOne =>
      (readList stop readOne true rest).map (·.map .block)
  | ⟨.word name, _⟩ :: rest =>
    (readOptions stop deeper rest).map (·.map (.action name))
  | tokens => unexpected stop .action tokens

/-- Reads one statement that may hold `levels` levels of blocks, branches and list operands. -/
def readStatement : Nat → Reader Statement
  | 0 => readStatementWith stop none
  | levels + 1 => readStatementWith stop (some (readStatement levels))

end Readers

/-- How many levels of blocks, branches and list operands a program may have. -/
def maxNesting : Nat := 64

def TokenStream.toProgram (stream : TokenStream) : Except Rejection Program :=
  (readList stream.stop (readStatement stream.stop maxNesting) false stream.tokens).map (·.value)

end WindowActions
