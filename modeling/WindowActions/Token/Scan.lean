import WindowActions.SourceError

/-!
# From characters to tokens

A text is read one character at a time. `scanStep` says which tokens a character completes and
what the text around it is from there on; `scan` runs it along the text and keeps the position. A
word is completed by the first character that cannot belong to it, so a step completes up to two
tokens.
-/

namespace WindowActions

/-- What the characters read so far have left open. -/
inductive ScanMode where
  | blank
  /-- Inside a bare word; its characters so far, the last one first. -/
  | word (start : Position) (chars : List Char)
  /-- Inside a comment, up to the end of the line. -/
  | comment
  /-- Inside a text that ends at `close`; its characters so far, the last one first. -/
  | text (start : Position) (close : Char) (chars : List Char)
  | escape (start : Position) (close : Char) (chars : List Char)
  /-- Behind a backslash outside of a text. -/
  | continuation
deriving DecidableEq, Repr

/-- The word whose characters were collected last one first. -/
def wordToken (start : Position) (chars : List Char) : Token :=
  ⟨.word (String.ofList chars.reverse), start⟩

/-- The text whose characters were collected last one first. -/
def textToken (start : Position) (chars : List Char) : Token :=
  ⟨.text (String.ofList chars.reverse), start⟩

/-- The effect of the character `c` between tokens. -/
def scanBlank (pos : Position) (c : Char) : Except SourceError (List Token × ScanMode) :=
  match Mark.ofChar? c with
  | some mark => .ok ([⟨.mark mark, pos⟩], .blank)
  | none =>
    if c = ')' then .error ⟨pos, .strayParenthesis⟩
    else if c = '#' then .ok ([], .comment)
    else if c = '\\' then .ok ([], .continuation)
    else if c = '"' then .ok ([], .text pos '"' [])
    else if c = '(' then .ok ([], .text pos ')' [])
    else if isBlank c then .ok ([], .blank)
    else .ok ([], .word pos [c])

/-- The characters that a text gains by `c` behind a backslash, the last one first. A backslash in
front of anything but a quote, a parenthesis or a backslash stays in the text. -/
def escaped (c : Char) : List Char :=
  if c = '"' ∨ c = '(' ∨ c = ')' ∨ c = '\\' then [c] else [c, '\\']

/-- The tokens that the character `c` completes, and what is open behind it. -/
def scanStep (mode : ScanMode) (pos : Position) (c : Char) :
    Except SourceError (List Token × ScanMode) :=
  match mode with
  | .blank => scanBlank pos c
  | .word start chars =>
    if isWordChar c then .ok ([], .word start (c :: chars))
    else (scanBlank pos c).map fun (tokens, mode) => (wordToken start chars :: tokens, mode)
  | .comment => if c = '\n' then scanBlank pos c else .ok ([], .comment)
  | .text start close chars =>
    if c = close then .ok ([textToken start chars], .blank)
    else if c = '\\' then .ok ([], .escape start close chars)
    else .ok ([], .text start close (c :: chars))
  | .escape start close chars => .ok ([], .text start close (escaped c ++ chars))
  | .continuation =>
    if c = '\n' then .ok ([], .blank)
    else if c = '\r' then .ok ([], .continuation)
    else .error ⟨pos, .brokenContinuation⟩

def scanEnd : ScanMode → Except SourceError (List Token)
  | .word start chars => .ok [wordToken start chars]
  | .text start _ _ | .escape start _ _ => .error ⟨start, .unterminatedText⟩
  | .blank | .comment | .continuation => .ok []

/-- The tokens of the rest of a text, which starts at `pos`. -/
def scan (mode : ScanMode) (pos : Position) : List Char → Except SourceError TokenStream
  | [] => (scanEnd mode).map fun tokens => ⟨tokens, pos⟩
  | c :: cs =>
    match scanStep mode pos c with
    | .error e => .error e
    | .ok (tokens, mode) =>
      (scan mode (pos.after c) cs).map fun stream => ⟨tokens ++ stream.tokens, stream.stop⟩

def tokenize (source : String) : Except SourceError TokenStream :=
  scan .blank .start source.toList

theorem scan_nil (mode : ScanMode) (pos : Position) :
    scan mode pos [] = (scanEnd mode).map fun tokens => ⟨tokens, pos⟩ := rfl

theorem scan_cons_of_error {mode : ScanMode} {pos : Position} {c : Char} {e : SourceError}
    (h : scanStep mode pos c = .error e) (cs : List Char) : scan mode pos (c :: cs) = .error e := by
  rw [scan, h]

theorem scan_cons_of_ok {mode next : ScanMode} {pos : Position} {c : Char} {tokens : List Token}
    (h : scanStep mode pos c = .ok (tokens, next)) (cs : List Char) :
    scan mode pos (c :: cs) =
      (scan next (pos.after c) cs).map fun stream => ⟨tokens ++ stream.tokens, stream.stop⟩ := by
  rw [scan, h]

end WindowActions
