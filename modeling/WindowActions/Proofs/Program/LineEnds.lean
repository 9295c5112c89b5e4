import Mathlib
import WindowActions.Proofs.Program.Alike
import WindowActions.Vocabulary.Resolve

/-!
# Carriage returns at the ends of lines

A line may end with a line feed alone or with a carriage return in front of it. Each kind of text
deals with the return in its own way: between tokens it is a blank, it completes a word, a comment
and a continuation skip it, and a quoted text keeps it. In all of them the line feed behind it then
finds what it would have found without it. So scanning one text and scanning the other go along
with each other, one character of the first at a time, and only the ends of lines are found at other
places, one column further (`scan_crlf`).

Quoted texts that go over several lines have the returns in them. Without such texts, both texts are
the same program.
-/

namespace WindowActions

def crlfChar (c : Char) : List Char := if c = '\n' then ['\r', '\n'] else [c]

/-- The text with a carriage return in front of each line feed. -/
def crlf (s : String) : String := String.ofList (s.toList.flatMap crlfChar)

/-- The token as it is found behind a carriage return, if it is the end of a line. -/
def Token.behindReturn (t : Token) : Token :=
  if t.kind = .mark .newline then ⟨t.kind, t.pos.line, t.pos.column + 1⟩ else t

def TokenKind.crlf : TokenKind → TokenKind
  | .text chars => .text (WindowActions.crlf chars)
  | kind => kind

/-- The token of the text with carriage returns. -/
def Token.crlf (t : Token) : Token := ⟨t.kind.crlf, t.behindReturn.pos⟩

def TokenStream.crlf (stream : TokenStream) : TokenStream :=
  ⟨stream.tokens.map Token.crlf, stream.stop⟩

/-- What is left open in the text with carriage returns. A text that is read so far has them. -/
def ScanMode.crlf : ScanMode → ScanMode
  | .text start close chars => .text start close (chars.flatMap fun c => (crlfChar c).reverse)
  | .escape start close chars => .escape start close (chars.flatMap fun c => (crlfChar c).reverse)
  | mode => mode

def crlfStep (step : List Token × ScanMode) : List Token × ScanMode :=
  (step.1.map Token.crlf, step.2.crlf)

/-- Texts are not closed by the end of a line. -/
def ScanMode.ClosesInLine : ScanMode → Prop
  | .text _ close _ | .escape _ close _ => close ≠ '\n' ∧ close ≠ '\r'
  | _ => True

section Scan

variable {mode next : ScanMode} {pos start : Position} {c : Char} {tokens : List Token}

theorem crlfChar_of_ne (h : c ≠ '\n') : crlfChar c = [c] := if_neg h

theorem Position.afterAll_crlfChar (pos : Position) (c : Char) :
    pos.afterAll (crlfChar c) = pos.after c := by
  by_cases hc : c = '\n'
  · rw [hc]
    rfl
  · rw [crlfChar_of_ne hc]
    rfl

theorem crlf_textToken (start : Position) (chars : List Char) :
    (textToken start chars).crlf =
      textToken start (chars.flatMap fun c => (crlfChar c).reverse) := by
  have hchars : (chars.flatMap fun c => (crlfChar c).reverse).reverse =
      chars.reverse.flatMap crlfChar := by
    rw [List.reverse_flatMap]
    simp [Function.comp_def]
  rw [textToken, textToken, hchars, Token.crlf, TokenKind.crlf, WindowActions.crlf,
    String.toList_ofList]
  rfl

theorem flatMap_escaped (hc : c ≠ '\n') :
    (escaped c).flatMap (fun c => (crlfChar c).reverse) = escaped c := by
  rw [escaped]
  split <;> simp [crlfChar, hc]

theorem scanBlank_crlf (pos : Position) (hc : c ≠ '\n') :
    scanBlank pos c = (scanBlank pos c).map crlfStep := by
  unfold scanBlank
  cases hmark : Mark.ofChar? c with
  | some mark =>
      have hkind : TokenKind.mark mark ≠ .mark .newline := by
        rintro ⟨⟩
        exact hc (Mark.ofChar?_eq_some_iff.1 hmark)
      have htoken : Token.crlf ⟨.mark mark, pos⟩ = ⟨.mark mark, pos⟩ := by
        rw [Token.crlf, Token.behindReturn, if_neg hkind]
        rfl
      exact congrArg (fun t => Except.ok ([t], ScanMode.blank)) htoken.symm
  | none =>
      simp only
      repeat' split
      all_goals rfl

/-- Any character but a line feed has the same effect in both texts. -/
theorem scanStep_crlf (mode : ScanMode) (pos : Position) (hc : c ≠ '\n') :
    scanStep mode.crlf pos c = (scanStep mode pos c).map crlfStep := by
  cases mode with
  | blank => exact scanBlank_crlf pos hc
  | word start chars =>
      show scanStep (.word start chars) pos c = _
      rw [scanStep]
      split
      · rfl
      · conv_lhs => rw [scanBlank_crlf pos hc]
        cases scanBlank pos c <;> rfl
  | comment =>
      simp only [ScanMode.crlf, scanStep, if_neg hc]
      rfl
  | text start close chars =>
      simp only [ScanMode.crlf, scanStep]
      split
      · rw [← crlf_textToken]
        rfl
      split
      · rfl
      · simp only [Except.map, crlfStep, ScanMode.crlf, List.flatMap_cons, crlfChar_of_ne hc]
        rfl
  | escape start close chars =>
      simp only [ScanMode.crlf, scanStep, Except.map, crlfStep, List.flatMap_append,
        flatMap_escaped hc]
      rfl
  | continuation =>
      simp only [ScanMode.crlf, scanStep, if_neg hc]
      split <;> rfl

/-- A carriage return and a line feed have the effect of the line feed in the other text. -/
theorem scanAlong_newline (hmode : mode.ClosesInLine) (pos : Position) :
    scanAlong mode.crlf pos ['\r', '\n'] = (scanStep mode pos '\n').map crlfStep := by
  cases mode with
  | blank | word start chars | comment | continuation => rfl
  | text start close chars =>
      obtain ⟨hfeed, hreturn⟩ := hmode
      simp [scanAlong, ScanMode.crlf, scanStep, hfeed.symm, hreturn.symm, Except.map, crlfStep,
        crlfChar]
  | escape start close chars =>
      obtain ⟨hfeed, hreturn⟩ := hmode
      simp [scanAlong, ScanMode.crlf, scanStep, hfeed.symm, Except.map, crlfStep, escaped, crlfChar]

theorem scanAlong_crlfChar (hmode : mode.ClosesInLine) (pos : Position) (c : Char) :
    scanAlong mode.crlf pos (crlfChar c) = (scanStep mode pos c).map crlfStep := by
  by_cases hc : c = '\n'
  · rw [hc]
    exact scanAlong_newline hmode pos
  · rw [crlfChar_of_ne hc, scanAlong, scanStep_crlf mode pos hc]
    cases scanStep mode pos c with
    | error e => rfl
    | ok step => simp [Except.map, scanAlong, crlfStep]

theorem closesInLine_of_scanBlank (h : scanBlank pos c = .ok (tokens, next)) :
    next.ClosesInLine := by
  unfold scanBlank at h
  repeat' split at h
  all_goals cases h
  all_goals simp [ScanMode.ClosesInLine]

theorem closesInLine_of_scanStep (hmode : mode.ClosesInLine)
    (h : scanStep mode pos c = .ok (tokens, next)) : next.ClosesInLine := by
  cases mode with
  | blank => exact closesInLine_of_scanBlank h
  | word start chars =>
      rw [scanStep] at h
      split at h
      · cases h
        trivial
      · cases hblank : scanBlank pos c with
        | error e =>
            rw [hblank] at h
            cases h
        | ok step =>
            rw [hblank] at h
            cases h
            exact closesInLine_of_scanBlank hblank
  | comment =>
      rw [scanStep] at h
      split at h
      · exact closesInLine_of_scanBlank h
      · cases h
        trivial
  | text start close chars =>
      rw [scanStep] at h
      repeat' split at h
      all_goals cases h
      · trivial
      · exact hmode
      · exact hmode
  | escape start close chars =>
      cases h
      exact hmode
  | continuation =>
      rw [scanStep] at h
      repeat' split at h
      all_goals cases h
      all_goals trivial

theorem scan_crlf (hmode : mode.ClosesInLine) (pos : Position) (cs : List Char) :
    scan mode.crlf pos (cs.flatMap crlfChar) = (scan mode pos cs).map TokenStream.crlf := by
  induction cs generalizing mode pos with
  | nil =>
      show scan mode.crlf pos [] = _
      rw [scan_nil, scan_nil]
      cases mode <;> rfl
  | cons c cs ih =>
      rw [List.flatMap_cons, scan_append, scanAlong_crlfChar hmode, Position.afterAll_crlfChar,
        scan]
      cases hstep : scanStep mode pos c with
      | error e => rfl
      | ok step =>
          have hnext := ih (closesInLine_of_scanStep hmode hstep) (pos.after c)
          simp only [Except.map, crlfStep, hnext]
          cases scan step.2 (pos.after c) cs with
          | error e => rfl
          | ok stream => simp only [TokenStream.crlf, List.map_append]

end Scan

theorem tokenize_crlf (source : String) :
    tokenize (crlf source) = (tokenize source).map TokenStream.crlf := by
  rw [tokenize, tokenize, crlf, String.toList_ofList]
  have hblank : ScanMode.ClosesInLine .blank := trivial
  exact scan_crlf hblank .start source.toList

/-- No quoted text of the source goes over several lines. -/
def TextsInLine (source : String) : Prop :=
  ∀ stream, tokenize source = .ok stream →
    ∀ chars pos, (⟨.text chars, pos⟩ : Token) ∈ stream.tokens → '\n' ∉ chars.toList

section InLine

variable {source : String} {stream : TokenStream} {t : Token}

theorem crlf_of_not_mem {s : String} (h : '\n' ∉ s.toList) : crlf s = s := by
  have hchars : s.toList.flatMap crlfChar = s.toList.flatMap fun c => [c] :=
    List.flatMap_congr fun c hc => crlfChar_of_ne (ne_of_mem_of_not_mem hc h)
  rw [crlf, hchars, List.flatMap_singleton', String.ofList_toList]

theorem TextsInLine.crlf_eq (h : TextsInLine source) (hs : tokenize source = .ok stream)
    (ht : t ∈ stream.tokens) : t.crlf = t.behindReturn := by
  obtain ⟨kind, pos⟩ := t
  cases kind with
  | word chars => rfl
  | mark mark => cases mark <;> rfl
  | text chars =>
      have hchars := crlf_of_not_mem (h stream hs chars pos ht)
      rw [Token.crlf, TokenKind.crlf, hchars]
      rfl

theorem TextsInLine.tokenize_crlf (h : TextsInLine source) :
    tokenize (crlf source) =
      (tokenize source).map fun stream => ⟨stream.tokens.map Token.behindReturn, stream.stop⟩ := by
  rw [WindowActions.tokenize_crlf]
  cases hs : tokenize source with
  | error e => rfl
  | ok stream =>
      simp only [Except.map, TokenStream.crlf]
      rw [List.map_congr_left fun t ht => h.crlf_eq hs ht]

end InLine

/-- The same place, or the one behind it on the same line. -/
def Position.AtMostBehind (pos pos' : Position) : Prop :=
  pos' = pos ∨ pos' = ⟨pos.line, pos.column + 1⟩

theorem Token.alike_behindReturn (t : Token) :
    Token.Alike Position.AtMostBehind t t.behindReturn := by
  rw [behindReturn]
  split
  · exact ⟨rfl, .inr rfl⟩
  · exact ⟨rfl, .inl rfl⟩

/-- The same misuse, or the same fault at related places. -/
inductive ParseFailure.Alike (R : Position → Position → Prop) : ParseFailure → ParseFailure → Prop
  | source {e e' : SourceError} (h : SourceError.Alike R e e') : Alike R (.source e) (.source e')
  | misuse (m : Misuse) : Alike R (.misuse m) (.misuse m)

namespace Vocabulary

variable {R : Position → Position → Prop} {source source' : String}

/-- What is looked up and the list do not depend on places, and neither does what a failure is. -/
theorem parse_alike (v : Vocabulary)
    (h : SameOutcome (SourceError.Alike R) (TokenStream.Alike R) (tokenize source)
      (tokenize source')) :
    (v.parse source').warnings = (v.parse source).warnings ∧
      SameOutcome (ParseFailure.Alike R) Eq (v.parse source).result (v.parse source').result := by
  rw [parse, parse]
  generalize tokenize source = outcome, tokenize source' = outcome' at h
  cases h with
  | error he => exact ⟨rfl, .error (.source he)⟩
  | @ok stream stream' hstream =>
      have hprogram := hstream.toProgram
      simp only
      generalize stream.toProgram = program, stream'.toProgram = program' at hprogram
      cases hprogram with
      | error hr =>
          simp only [← hr.heard, Parsed.ofRejected]
          refine ⟨trivial, ?_⟩
          cases (v.resolvePhrases _).result with
          | error m => exact .error (.misuse m)
          | ok _ => exact .error (.source hr.error)
      | @ok program _ hp =>
          cases hp
          refine ⟨rfl, ?_⟩
          simp only [Parsed.ofResolved]
          cases (v.resolveBody program).result with
          | error m => exact .error (.misuse m)
          | ok list => exact .ok rfl

/-- Unless a quoted text goes over several lines, carriage returns in front of the line feeds make
no difference: the tokens are of the same kinds and at the same places, the ends of lines one column
further, or scanning fails with the same error; and the same names are looked up, with the same list
as their result or the same failure. -/
theorem line_ends_irrelevant (v : Vocabulary) {source : String} (h : TextsInLine source) :
    tokenize (crlf source) =
        (tokenize source).map (fun stream => ⟨stream.tokens.map Token.behindReturn, stream.stop⟩) ∧
      (v.parse (crlf source)).warnings = (v.parse source).warnings ∧
      SameOutcome (ParseFailure.Alike Position.AtMostBehind) Eq (v.parse source).result
        (v.parse (crlf source)).result := by
  have htokens := h.tokenize_crlf
  refine ⟨htokens, v.parse_alike ?_⟩
  rw [htokens]
  cases tokenize source with
  | error e => exact .error ⟨rfl, .inl rfl⟩
  | ok stream =>
      refine .ok ⟨?_, .inl rfl⟩
      show List.Forall₂ _ stream.tokens (stream.tokens.map Token.behindReturn)
      rw [List.forall₂_map_right_iff]
      exact List.forall₂_same.2 fun t _ => t.alike_behindReturn

/-- A comment, a continuation and a word stand in front of line feeds, and a quoted text does not.
-/
theorem line_ends_irrelevant_comment :
    let source := "[key=\"a b\"] Stop # one\n[] \\\nRun\n"
    let tokens : List Token :=
      [⟨.mark .leftBracket, ⟨1, 1⟩⟩, ⟨.word "key", ⟨1, 2⟩⟩, ⟨.mark .equals, ⟨1, 5⟩⟩,
        ⟨.text "a b", ⟨1, 6⟩⟩, ⟨.mark .rightBracket, ⟨1, 11⟩⟩, ⟨.word "Stop", ⟨1, 13⟩⟩,
        ⟨.mark .newline, ⟨1, 23⟩⟩, ⟨.mark .leftBracket, ⟨2, 1⟩⟩, ⟨.mark .rightBracket, ⟨2, 2⟩⟩,
        ⟨.word "Run", ⟨3, 1⟩⟩, ⟨.mark .newline, ⟨3, 4⟩⟩]
    let list : ActionList := [.conditional (some [⟨none, .or⟩]) [] [], .conditional none [] []]
    TextsInLine source ∧
      crlf source = "[key=\"a b\"] Stop # one\r\n[] \\\r\nRun\r\n" ∧
      tokenize source = .ok ⟨tokens, ⟨4, 1⟩⟩ ∧
      tokenize (crlf source) = .ok ⟨tokens.map Token.behindReturn, ⟨4, 1⟩⟩ ∧
      (parse {} source).result = .ok list ∧ (parse {} (crlf source)).result = .ok list := by
  intro source tokens list
  have hsource : tokenize source = .ok ⟨tokens, ⟨4, 1⟩⟩ := by cbv
  have htexts : TextsInLine source := by
    intro stream hs chars pos ht
    rw [hsource] at hs
    cases hs
    simp only [tokens, List.mem_cons, List.not_mem_nil, Token.mk.injEq, TokenKind.text.injEq,
      reduceCtorEq, false_and, false_or, or_false] at ht
    rw [ht.1]
    decide
  have hlist : (parse {} source).result = .ok list := by cbv
  obtain ⟨htokens, -, hresult⟩ := line_ends_irrelevant {} htexts
  rw [hsource] at htokens
  rw [hlist] at hresult
  obtain ⟨_, hlist', rfl⟩ := hresult.exists_ok
  exact ⟨htexts, by decide, hsource, htokens, hlist, hlist'⟩

end Vocabulary

end WindowActions
