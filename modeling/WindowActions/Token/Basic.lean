import WindowActions.Text.Blank
import WindowActions.Text.Quoted

/-!
# Tokens

A program is a sequence of words, quoted texts and marks. A mark is a single character with a
meaning of its own; the end of a line is one of them. The end of the program is no token: it is
the place where the tokens stop.
-/

namespace WindowActions

/-- A place in a text. Lines end at line feeds and columns count characters, both from one. -/
structure Position where
  line : Nat
  column : Nat
deriving DecidableEq, Repr, Inhabited

def Position.start : Position := ⟨1, 1⟩

/-- The place behind the character `c` at `pos`. -/
def Position.after (pos : Position) (c : Char) : Position :=
  if c = '\n' then ⟨pos.line + 1, 1⟩ else ⟨pos.line, pos.column + 1⟩

inductive Mark where
  | leftBrace | rightBrace | leftBracket | rightBracket | pipe | comma | semicolon | colon | equals
  | newline
deriving DecidableEq, Repr

def Mark.char : Mark → Char
  | leftBrace => '{'
  | rightBrace => '}'
  | leftBracket => '['
  | rightBracket => ']'
  | pipe => '|'
  | comma => ','
  | semicolon => ';'
  | colon => ':'
  | equals => '='
  | newline => '\n'

def Mark.ofChar? : Char → Option Mark
  | '{' => some leftBrace
  | '}' => some rightBrace
  | '[' => some leftBracket
  | ']' => some rightBracket
  | '|' => some pipe
  | ',' => some comma
  | ';' => some semicolon
  | ':' => some colon
  | '=' => some equals
  | '\n' => some newline
  | _ => none

theorem Mark.ofChar?_char (m : Mark) : Mark.ofChar? m.char = some m := by
  cases m <;> rfl

theorem Mark.ofChar?_eq_some_iff {c : Char} {m : Mark} :
    Mark.ofChar? c = some m ↔ c = m.char := by
  constructor
  · intro h
    unfold Mark.ofChar? at h
    split at h <;> cases h <;> rfl
  · rintro rfl
    exact m.ofChar?_char

inductive TokenKind where
  | word (chars : String)
  | text (chars : String)
  | mark (mark : Mark)
deriving DecidableEq, Repr

def TokenKind.describe : TokenKind → String
  | .word name => quoted name
  | .text _ => "quoted text"
  | .mark .newline => "end of line"
  | .mark m => String.ofList ['\'', m.char, '\'']

def endDescription : String := "end of input"

/-- A token and the place of its first character. -/
structure Token where
  kind : TokenKind
  pos : Position
deriving DecidableEq, Repr

/-- All tokens of a text, and the place where the text ends. -/
structure TokenStream where
  tokens : List Token
  stop : Position
deriving DecidableEq, Repr

/-- Whether a character can be part of a bare word. -/
def isWordChar (c : Char) : Bool :=
  !isBlank c && (Mark.ofChar? c).isNone && c != '"' && c != '(' && c != ')' && c != '\\'

end WindowActions
