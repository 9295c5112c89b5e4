import WindowActions.Proofs.Token.Layout

/-!
# Writing tokens

A token can be written in several ways: a text between quotes or parentheses, a line end with blanks
and a comment in front of it. Between two tokens there is a gap of blanks and continuations, which
can be as long as one likes. `Written` relates tokens to all texts that can be written for them, and
whichever of these is read, the same tokens come back (`tokenize_undoes_writing`).
-/

namespace WindowActions

/-- The characters with a backslash in front of every backslash and every closing character. -/
def escapeFor (close : Char) (chars : List Char) : List Char :=
  chars.flatMap fun c => if c = '\\' ∨ c = close then ['\\', c] else [c]

/-- Blanks of one line, and backslashes that take the line end behind them away. -/
inductive IsGap : List Char → Prop
  | nil : IsGap []
  | blank {c : Char} {gap : List Char} (h : isBlank c = true) (hline : c ≠ '\n')
      (hgap : IsGap gap) : IsGap (c :: gap)
  | continuation {gap : List Char} (hgap : IsGap gap) : IsGap ('\\' :: '\n' :: gap)

/-- The characters are a way to write the token. -/
inductive WrittenAs : TokenKind → List Char → Prop
  | mark (mark : Mark) : WrittenAs (.mark mark) [mark.char]
  | word {name : String} (h : IsBareWord name.toList) : WrittenAs (.word name) name.toList
  | text {opening close : Char} (chars : String) (h : Encloses opening close) :
      WrittenAs (.text chars) (opening :: (escapeFor close chars.toList ++ [close]))
  | blanks {gap : List Char} (hgap : IsGap gap) : WrittenAs (.mark .newline) (gap ++ ['\n'])
  | comment {gap chars : List Char} (hgap : IsGap gap) (h : '\n' ∉ chars) :
      WrittenAs (.mark .newline) (gap ++ '#' :: (chars ++ ['\n']))

/-- The characters are a way to write the tokens, with a gap between any two of them. -/
inductive Written : List TokenKind → List Char → Prop
  | nil : Written [] []
  | last {kind : TokenKind} {chars : List Char} (h : WrittenAs kind chars) : Written [kind] chars
  | cons {kind next : TokenKind} {kinds : List TokenKind} {chars gap rest : List Char}
      (h : WrittenAs kind chars) (hgap : IsGap gap) (hne : gap ≠ [])
      (hrest : Written (next :: kinds) rest) :
      Written (kind :: next :: kinds) (chars ++ (gap ++ rest))

section Written

variable {before chars gap rest : List Char} {tokens : List Token} {kind : TokenKind}
  {kinds : List TokenKind}

theorem standsFor_escapeFor {opening close : Char} (h : Encloses opening close)
    (chars : List Char) : StandsFor close (escapeFor close chars) chars := by
  have hclose : close ∈ escapables := by cases h <;> decide
  induction chars with
  | nil => exact .nil
  | cons c chars ih =>
      rw [escapeFor, List.flatMap_cons]
      by_cases hc : c = '\\' ∨ c = close
      · have hmem : c ∈ escapables := by
          rcases hc with rfl | rfl
          · decide
          · exact hclose
        rw [if_pos hc]
        exact .escaped hmem ih
      · obtain ⟨hbackslash, hne⟩ := not_or.1 hc
        rw [if_neg hc]
        exact .plain hne hbackslash ih

theorem IsGap.laidOut (hgap : IsGap gap) (h : LaidOut rest (before ++ gap) chars tokens) :
    LaidOut rest before (gap ++ chars) tokens := by
  induction hgap generalizing before with
  | nil => rwa [List.append_nil] at h
  | @blank c gap hblank hline _ ih =>
      have hpiece : IsFiller [c] (gap ++ chars ++ rest) := .blank _ hblank hline
      rw [List.append_cons] at h
      simpa using LaidOut.filler hpiece (ih h)
  | @continuation gap _ ih =>
      have hnone : ∀ c ∈ ([] : List Char), c = '\r' := fun c hc => absurd hc List.not_mem_nil
      have hpiece : IsFiller ['\\', '\n'] (gap ++ chars ++ rest) := .continuation _ hnone
      rw [List.append_cons, List.append_cons, List.append_assoc before] at h
      simpa using LaidOut.filler hpiece (ih h)

/-- No word goes on into a gap. -/
theorem IsGap.isWordChar_head (hgap : IsGap gap) (hne : gap ≠ []) :
    ∀ c ∈ (gap ++ chars).head?, isWordChar c = false := by
  cases hgap with
  | nil => exact absurd rfl hne
  | @blank c gap hblank _ _ =>
      rintro d ⟨⟩
      rw [isWordChar, hblank]
      rfl
  | continuation =>
      rintro d ⟨⟩
      decide

theorem LaidOut.newline (h : LaidOut [] (before ++ ['\n']) chars tokens) :
    LaidOut [] before ('\n' :: chars) (⟨.mark .newline, .behind before⟩ :: tokens) :=
  LaidOut.lexeme (IsLexeme.mark .newline (chars ++ [])) h

theorem WrittenAs.laidOut (hkind : WrittenAs kind chars)
    (h : LaidOut [] (before ++ chars) rest tokens)
    (hrest : ∀ c ∈ rest.head?, isWordChar c = false) :
    ∃ pos, LaidOut [] before (chars ++ rest) (⟨kind, pos⟩ :: tokens) := by
  cases hkind with
  | mark mark => exact ⟨_, .lexeme (.mark mark _) h⟩
  | @word name hname =>
      have hlexeme : IsLexeme (.word (String.ofList name.toList)) name.toList (rest ++ []) :=
        .word hname (by rwa [List.append_nil])
      rw [String.ofList_toList] at hlexeme
      exact ⟨_, .lexeme hlexeme h⟩
  | @text opening close content hencloses =>
      have hlexeme : IsLexeme (.text (String.ofList content.toList))
          (opening :: (escapeFor close content.toList ++ [close])) (rest ++ []) :=
        .text hencloses (standsFor_escapeFor hencloses content.toList)
      rw [String.ofList_toList] at hlexeme
      exact ⟨_, .lexeme hlexeme h⟩
  | @blanks gap hgap =>
      refine ⟨.behind (before ++ gap), ?_⟩
      rw [List.append_assoc]
      refine hgap.laidOut (.newline ?_)
      rwa [List.append_assoc]
  | @comment gap chars hgap hchars =>
      refine ⟨.behind (before ++ gap ++ '#' :: chars), ?_⟩
      have hcomment : IsFiller ('#' :: chars) ('\n' :: rest ++ []) :=
        .comment hchars fun c hc => (Option.some.inj hc).symm
      rw [List.append_assoc, List.cons_append, List.append_assoc]
      refine hgap.laidOut (.filler hcomment (.newline ?_))
      simpa using h

theorem Written.laidOut (h : Written kinds chars) (before : List Char) :
    ∃ tokens, LaidOut [] before chars tokens ∧ tokens.map (·.kind) = kinds := by
  induction h generalizing before with
  | nil => exact ⟨[], .nil before, rfl⟩
  | @last kind chars hkind =>
      obtain ⟨pos, hlaid⟩ := hkind.laidOut (.nil (before ++ chars)) (by simp)
      rw [List.append_nil] at hlaid
      exact ⟨_, hlaid, rfl⟩
  | @cons kind next kinds chars gap rest hkind hgap hne _ ih =>
      obtain ⟨tokens, hlaid, hkinds⟩ := ih (before ++ chars ++ gap)
      obtain ⟨pos, hlaid⟩ := hkind.laidOut (hgap.laidOut hlaid) (hgap.isWordChar_head hne)
      exact ⟨_, hlaid, congrArg (kind :: ·) hkinds⟩

theorem exists_writtenAs (h : ∀ name, kind = .word name → IsBareWord name.toList) :
    ∃ chars, WrittenAs kind chars := by
  cases kind with
  | word name => exact ⟨_, .word (h name rfl)⟩
  | text chars => exact ⟨_, .text chars .quotes⟩
  | mark mark => exact ⟨_, .mark mark⟩

/-- Tokens can be written if their words are bare. -/
theorem exists_written (h : ∀ name, .word name ∈ kinds → IsBareWord name.toList) :
    ∃ chars, Written kinds chars := by
  induction kinds with
  | nil => exact ⟨[], .nil⟩
  | cons kind kinds ih =>
      obtain ⟨chars, hkind⟩ := exists_writtenAs fun name heq => h name (heq ▸ List.mem_cons_self)
      obtain ⟨rest, hrest⟩ := ih fun name hname => h name (List.mem_cons_of_mem _ hname)
      cases kinds with
      | nil => exact ⟨chars, .last hkind⟩
      | cons next kinds =>
          have hgap : IsGap [' '] := .blank (by decide) (by decide) .nil
          exact ⟨_, .cons hkind hgap (List.cons_ne_nil _ _) hrest⟩

end Written

/-- Tokens whose words are bare can be written, and however they are written, they are read again,
and nothing else is. -/
theorem tokenize_undoes_writing (kinds : List TokenKind)
    (hwords : ∀ name, .word name ∈ kinds → IsBareWord name.toList) :
    (∃ source : String, Written kinds source.toList) ∧
    ∀ source : String, Written kinds source.toList →
      ∃ stream, tokenize source = .ok stream ∧ stream.tokens.map (·.kind) = kinds := by
  constructor
  · obtain ⟨chars, hchars⟩ := exists_written hwords
    exact ⟨String.ofList chars, by rwa [String.toList_ofList]⟩
  · intro source hwritten
    obtain ⟨tokens, hlaid, hkinds⟩ := hwritten.laidOut []
    exact ⟨_, tokenize_of_laidOut hlaid, hkinds⟩

/-- Both kinds of quotes, a word with a number sign, a gap over a line end and a comment that ends
with a backslash and a quote. -/
theorem tokenize_undoes_writing_mixed :
    let kinds : List TokenKind := [.text "\\)\"", .word "q#", .mark .newline, .text "\\\n)"]
    let source := "(\\\\\\)\") \\\n\tq# # \\\"\n \"\\\\\n)\""
    (∀ name, .word name ∈ kinds → IsBareWord name.toList) ∧
      Written kinds source.toList ∧
      ∃ stream, tokenize source = .ok stream ∧ stream.tokens.map (·.kind) = kinds := by
  intro kinds source
  have hwords : ∀ name, .word name ∈ kinds → IsBareWord name.toList := by
    intro name hname
    obtain rfl : name = "q#" := by simpa [kinds] using hname
    decide
  have hspace : IsGap [' '] := .blank (by decide) (by decide) .nil
  have hgap : IsGap [' ', '\\', '\n', '\t'] :=
    .blank (by decide) (by decide) (.continuation (.blank (by decide) (by decide) .nil))
  have hcomment : WrittenAs (.mark .newline) ([] ++ '#' :: ([' ', '\\', '"'] ++ ['\n'])) :=
    .comment .nil (by decide)
  have hchars : source.toList =
      '(' :: (escapeFor ')' "\\)\"".toList ++ [')']) ++ ([' ', '\\', '\n', '\t'] ++
        ("q#".toList ++ ([' '] ++ ([] ++ '#' :: ([' ', '\\', '"'] ++ ['\n']) ++
          ([' '] ++ '"' :: (escapeFor '"' "\\\n)".toList ++ ['"'])))))) := by decide
  have hwritten : Written kinds source.toList := by
    rw [hchars]
    exact .cons (.text "\\)\"" .parentheses) hgap (by decide)
      (.cons (.word (hwords "q#" (by simp [kinds]))) hspace (by decide)
        (.cons hcomment hspace (by decide) (.last (.text "\\\n)" .quotes))))
  exact ⟨hwords, hwritten, (tokenize_undoes_writing kinds hwords).2 source hwritten⟩

end WindowActions
