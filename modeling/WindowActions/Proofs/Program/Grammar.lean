import WindowActions.Program.Read

/-!
# The grammar of programs

The relations of this module say what can be spelled where: `StatementAt fits s tokens rest` says
that the statement `s` stands at the front of `tokens`, and that `rest` is what stands behind it.
They are the rules of the grammar and nothing else, so none of them looks ahead.

As it stands the grammar is ambiguous: in `[a] [b] C | D` the second branch can belong to either
conditional. Therefore the relations have a parameter, the statements that may stand in front of a
second branch. If all may, this is the grammar with all of its readings. If only those may that
could not take the branch themselves, it belongs to the innermost conditional that can.
-/

namespace WindowActions

/-- Whether a second branch behind the statement could belong to a conditional at its end. -/
def Statement.isOpen : Statement → Bool
  | .action _ _ => false
  | .block _ => false
  | .conditional _ _ none => true
  | .conditional _ _ (some otherwise) => otherwise.isOpen

/-- A statement that leaves a second branch behind it to others. -/
def Statement.IsClosed (s : Statement) : Prop := s.isOpen = false

mutual

/-- How deeply blocks, branches and list operands are nested. Every one of them counts, and only the
longest way into the tree does. -/
def Operand.depth : Operand → Nat
  | .text _ => 0
  | .list body => bodyDepth body + 1

def Statement.depth : Statement → Nat
  | .action _ options => optionsDepth options
  | .block body => bodyDepth body + 1
  | .conditional test accepted otherwise =>
    max (chainDepth test) (max (accepted.depth + 1) (otherwiseDepth otherwise))

def bodyDepth : List Statement → Nat
  | [] => 0
  | s :: body => max s.depth (bodyDepth body)

def otherwiseDepth : Option Statement → Nat
  | none => 0
  | some s => s.depth + 1

def optionsDepth : List (String × Operand) → Nat
  | [] => 0
  | (_, operand) :: options => max operand.depth (optionsDepth options)

def testOperandDepth : Option Operand → Nat
  | none => 0
  | some operand => operand.depth

def testsDepth : List Test → Nat
  | [] => 0
  | ⟨_, operand, _⟩ :: tests => max (testOperandDepth operand) (testsDepth tests)

def chainDepth : Option (List Test) → Nat
  | none => 0
  | some tests => testsDepth tests

end

section Grammar

variable (fits : Statement → Prop)

mutual

/-- `operand := WORD | TEXT | '{' list '}'` -/
inductive OperandAt : Operand → List Token → List Token → Prop
  | word {chars : String} {pos : Position} {rest : List Token} :
      OperandAt (.text chars) (⟨.word chars, pos⟩ :: rest) rest
  | text {chars : String} {pos : Position} {rest : List Token} :
      OperandAt (.text chars) (⟨.text chars, pos⟩ :: rest) rest
  | list {body : List Statement} {pos pos' : Position} {tokens rest : List Token}
      (inside : BodyAt body tokens (⟨.mark .rightBrace, pos'⟩ :: rest)) :
      OperandAt (.list body) (⟨.mark .leftBrace, pos⟩ :: tokens) rest

/-- `statement := '[' [ test ] ']' statement [ '|' statement ] | '{' list '}' | NAME { option }` -/
inductive StatementAt : Statement → List Token → List Token → Prop
  | action {name : String} {options : List (String × Operand)} {pos : Position}
      {tokens rest : List Token} (given : OptionsAt options tokens rest) :
      StatementAt (.action name options) (⟨.word name, pos⟩ :: tokens) rest
  | block {body : List Statement} {pos pos' : Position} {tokens rest : List Token}
      (inside : BodyAt body tokens (⟨.mark .rightBrace, pos'⟩ :: rest)) :
      StatementAt (.block body) (⟨.mark .leftBrace, pos⟩ :: tokens) rest
  | when {test : Option (List Test)} {accepted : Statement} {pos pos' : Position}
      {tokens middle rest : List Token}
      (chain : ChainAt test tokens (⟨.mark .rightBracket, pos'⟩ :: middle))
      (first : StatementAt accepted middle rest) :
      StatementAt (.conditional test accepted none) (⟨.mark .leftBracket, pos⟩ :: tokens) rest
  | whenElse {test : Option (List Test)} {accepted otherwise : Statement}
      {pos pos' pos'' : Position} {tokens middle behind rest : List Token}
      (chain : ChainAt test tokens (⟨.mark .rightBracket, pos'⟩ :: middle))
      (first : StatementAt accepted middle (⟨.mark .pipe, pos''⟩ :: behind))
      (fit : fits accepted) (second : StatementAt otherwise behind rest) :
      StatementAt (.conditional test accepted (some otherwise))
        (⟨.mark .leftBracket, pos⟩ :: tokens) rest

/-- `list := { statement | ';' | newline }` -/
inductive BodyAt : List Statement → List Token → List Token → Prop
  | nil {rest : List Token} : BodyAt [] rest rest
  | newline {body : List Statement} {pos : Position} {tokens rest : List Token}
      (more : BodyAt body tokens rest) : BodyAt body (⟨.mark .newline, pos⟩ :: tokens) rest
  | semicolon {body : List Statement} {pos : Position} {tokens rest : List Token}
      (more : BodyAt body tokens rest) : BodyAt body (⟨.mark .semicolon, pos⟩ :: tokens) rest
  | cons {s : Statement} {body : List Statement} {tokens middle rest : List Token}
      (one : StatementAt s tokens middle) (more : BodyAt body middle rest) :
      BodyAt (s :: body) tokens rest

/-- `{ option }`, where `option := NAME ':' operand` -/
inductive OptionsAt : List (String × Operand) → List Token → List Token → Prop
  | nil {rest : List Token} : OptionsAt [] rest rest
  | cons {name : String} {operand : Operand} {options : List (String × Operand)}
      {pos pos' : Position} {tokens middle rest : List Token}
      (one : OperandAt operand tokens middle) (more : OptionsAt options middle rest) :
      OptionsAt ((name, operand) :: options)
        (⟨.word name, pos⟩ :: ⟨.mark .colon, pos'⟩ :: tokens) rest

/-- `[ '=' operand ]` -/
inductive TestOperandAt : Option Operand → List Token → List Token → Prop
  | none {rest : List Token} : TestOperandAt none rest rest
  | some {operand : Operand} {pos : Position} {tokens rest : List Token}
      (one : OperandAt operand tokens rest) :
      TestOperandAt (some operand) (⟨.mark .equals, pos⟩ :: tokens) rest

/-- `test := NAME [ '=' operand ] [ (',' | '|') test ]` -/
inductive TestsAt : List Test → List Token → List Token → Prop
  | last {key : String} {operand : Option Operand} {pos : Position} {tokens rest : List Token}
      (given : TestOperandAt operand tokens rest) :
      TestsAt [⟨key, operand, .or⟩] (⟨.word key, pos⟩ :: tokens) rest
  | comma {key : String} {operand : Option Operand} {tests : List Test} {pos pos' : Position}
      {tokens middle rest : List Token}
      (given : TestOperandAt operand tokens (⟨.mark .comma, pos'⟩ :: middle))
      (more : TestsAt tests middle rest) :
      TestsAt (⟨key, operand, .and⟩ :: tests) (⟨.word key, pos⟩ :: tokens) rest
  | pipe {key : String} {operand : Option Operand} {tests : List Test} {pos pos' : Position}
      {tokens middle rest : List Token}
      (given : TestOperandAt operand tokens (⟨.mark .pipe, pos'⟩ :: middle))
      (more : TestsAt tests middle rest) :
      TestsAt (⟨key, operand, .or⟩ :: tests) (⟨.word key, pos⟩ :: tokens) rest

/-- `[ test ]` -/
inductive ChainAt : Option (List Test) → List Token → List Token → Prop
  | none {rest : List Token} : ChainAt none rest rest
  | some {tests : List Test} {tokens rest : List Token} (one : TestsAt tests tokens rest) :
      ChainAt (some tests) tokens rest

end

end Grammar

section Mono

variable {fits fits' : Statement → Prop}

mutual

theorem OperandAt.mono {operand : Operand} {tokens rest : List Token}
    (h : OperandAt fits operand tokens rest) (hfits : ∀ s, fits s → fits' s) :
    OperandAt fits' operand tokens rest := by
  match h with
  | .word => exact .word
  | .text => exact .text
  | .list inside => exact .list (inside.mono hfits)

theorem StatementAt.mono {s : Statement} {tokens rest : List Token}
    (h : StatementAt fits s tokens rest) (hfits : ∀ s, fits s → fits' s) :
    StatementAt fits' s tokens rest := by
  match h with
  | .action given => exact .action (given.mono hfits)
  | .block inside => exact .block (inside.mono hfits)
  | .when chain first => exact .when (chain.mono hfits) (first.mono hfits)
  | .whenElse chain first fit second =>
      exact .whenElse (chain.mono hfits) (first.mono hfits) (hfits _ fit) (second.mono hfits)

/-- What is a program if fewer statements may stand in front of a second branch is one if more
statements may. -/
theorem BodyAt.mono {body : List Statement} {tokens rest : List Token}
    (h : BodyAt fits body tokens rest) (hfits : ∀ s, fits s → fits' s) :
    BodyAt fits' body tokens rest := by
  match h with
  | .nil => exact .nil
  | .newline more => exact .newline (more.mono hfits)
  | .semicolon more => exact .semicolon (more.mono hfits)
  | .cons one more => exact .cons (one.mono hfits) (more.mono hfits)

theorem OptionsAt.mono {options : List (String × Operand)} {tokens rest : List Token}
    (h : OptionsAt fits options tokens rest) (hfits : ∀ s, fits s → fits' s) :
    OptionsAt fits' options tokens rest := by
  match h with
  | .nil => exact .nil
  | .cons one more => exact .cons (one.mono hfits) (more.mono hfits)

theorem TestOperandAt.mono {operand : Option Operand} {tokens rest : List Token}
    (h : TestOperandAt fits operand tokens rest) (hfits : ∀ s, fits s → fits' s) :
    TestOperandAt fits' operand tokens rest := by
  match h with
  | .none => exact .none
  | .some one => exact .some (one.mono hfits)

theorem TestsAt.mono {tests : List Test} {tokens rest : List Token}
    (h : TestsAt fits tests tokens rest) (hfits : ∀ s, fits s → fits' s) :
    TestsAt fits' tests tokens rest := by
  match h with
  | .last given => exact .last (given.mono hfits)
  | .comma given more => exact .comma (given.mono hfits) (more.mono hfits)
  | .pipe given more => exact .pipe (given.mono hfits) (more.mono hfits)

theorem ChainAt.mono {chain : Option (List Test)} {tokens rest : List Token}
    (h : ChainAt fits chain tokens rest) (hfits : ∀ s, fits s → fits' s) :
    ChainAt fits' chain tokens rest := by
  match h with
  | .none => exact .none
  | .some one => exact .some (one.mono hfits)

end

end Mono

section Append

variable {fits : Statement → Prop}

mutual

theorem OperandAt.append {operand : Operand} {tokens rest : List Token}
    (h : OperandAt fits operand tokens rest) (more : List Token) :
    OperandAt fits operand (tokens ++ more) (rest ++ more) := by
  match h with
  | .word => exact .word
  | .text => exact .text
  | .list inside => exact .list (inside.append more)

theorem StatementAt.append {s : Statement} {tokens rest : List Token}
    (h : StatementAt fits s tokens rest) (more : List Token) :
    StatementAt fits s (tokens ++ more) (rest ++ more) := by
  match h with
  | .action given => exact .action (given.append more)
  | .block inside => exact .block (inside.append more)
  | .when chain first => exact .when (chain.append more) (first.append more)
  | .whenElse chain first fit second =>
      exact .whenElse (chain.append more) (first.append more) fit (second.append more)

/-- What stands at the front of the tokens stands there whatever comes behind them. -/
theorem BodyAt.append {body : List Statement} {tokens rest : List Token}
    (h : BodyAt fits body tokens rest) (more : List Token) :
    BodyAt fits body (tokens ++ more) (rest ++ more) := by
  match h with
  | .nil => exact .nil
  | .newline inside => exact .newline (inside.append more)
  | .semicolon inside => exact .semicolon (inside.append more)
  | .cons one inside => exact .cons (one.append more) (inside.append more)

theorem OptionsAt.append {options : List (String × Operand)} {tokens rest : List Token}
    (h : OptionsAt fits options tokens rest) (more : List Token) :
    OptionsAt fits options (tokens ++ more) (rest ++ more) := by
  match h with
  | .nil => exact .nil
  | .cons one inside => exact .cons (one.append more) (inside.append more)

theorem TestOperandAt.append {operand : Option Operand} {tokens rest : List Token}
    (h : TestOperandAt fits operand tokens rest) (more : List Token) :
    TestOperandAt fits operand (tokens ++ more) (rest ++ more) := by
  match h with
  | .none => exact .none
  | .some one => exact .some (one.append more)

theorem TestsAt.append {tests : List Test} {tokens rest : List Token}
    (h : TestsAt fits tests tokens rest) (more : List Token) :
    TestsAt fits tests (tokens ++ more) (rest ++ more) := by
  match h with
  | .last given => exact .last (given.append more)
  | .comma given inside => exact .comma (given.append more) (inside.append more)
  | .pipe given inside => exact .pipe (given.append more) (inside.append more)

theorem ChainAt.append {chain : Option (List Test)} {tokens rest : List Token}
    (h : ChainAt fits chain tokens rest) (more : List Token) :
    ChainAt fits chain (tokens ++ more) (rest ++ more) := by
  match h with
  | .none => exact .none
  | .some one => exact .some (one.append more)

end

/-- Statements behind statements are one list. -/
theorem BodyAt.trans {body body' : List Statement} {tokens middle rest : List Token}
    (h : BodyAt fits body tokens middle) (h' : BodyAt fits body' middle rest) :
    BodyAt fits (body ++ body') tokens rest := by
  match h with
  | .nil => exact h'
  | .newline more => exact .newline (more.trans h')
  | .semicolon more => exact .semicolon (more.trans h')
  | .cons one more => exact .cons one (more.trans h')

end Append

end WindowActions
