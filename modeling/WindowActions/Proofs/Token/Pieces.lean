import Mathlib.Data.List.TakeWhile
import WindowActions.Proofs.Token.Places

/-!
# The pieces of a text

A text is made of lexemes, which are the characters of a token, and of fillers between them: blanks,
comments and continuations. Words and comments go on as long as they can, so whether characters are
a piece of a text depends on the character behind them as well.

`scan_filler` and `scan_lexeme` say what the scanner makes of a piece, and `scan_offends` what it
makes of the three ways to go wrong. There is nothing else: whatever a text starts with is one of
them (`start_cons`).
-/

namespace WindowActions

/-- A bare word. What starts with a number sign is a comment. -/
def IsBareWord (chars : List Char) : Prop :=
  chars ≠ [] ∧ chars.head? ≠ some '#' ∧ ∀ c ∈ chars, isWordChar c = true

instance (chars : List Char) : Decidable (IsBareWord chars) :=
  decidable_of_iff (chars ≠ [] ∧ chars.head? ≠ some '#' ∧ chars.all isWordChar = true)
    (by rw [List.all_eq_true, IsBareWord])

/-- The characters that open texts, with those that close them. -/
inductive Encloses : Char → Char → Prop
  | quotes : Encloses '"' '"'
  | parentheses : Encloses '(' ')'

/-- The characters in front of which a backslash only says that they are part of the text. -/
def escapables : List Char := ['"', '(', ')', '\\']

/-- What may be written in front of a closing character, and the characters that it stands for. -/
inductive StandsFor (close : Char) : List Char → List Char → Prop
  | nil : StandsFor close [] []
  | plain {c : Char} {written meant : List Char} (hclose : c ≠ close) (hbackslash : c ≠ '\\')
      (h : StandsFor close written meant) : StandsFor close (c :: written) (c :: meant)
  | escaped {c : Char} {written meant : List Char} (hc : c ∈ escapables)
      (h : StandsFor close written meant) : StandsFor close ('\\' :: c :: written) (c :: meant)
  | kept {c : Char} {written meant : List Char} (hc : c ∉ escapables)
      (h : StandsFor close written meant) :
      StandsFor close ('\\' :: c :: written) ('\\' :: c :: meant)

/-- The characters are those of a token, if these others stand behind them. -/
inductive IsLexeme : TokenKind → List Char → List Char → Prop
  | mark (mark : Mark) (rest : List Char) : IsLexeme (.mark mark) [mark.char] rest
  | word {chars rest : List Char} (h : IsBareWord chars)
      (hrest : ∀ c ∈ rest.head?, isWordChar c = false) :
      IsLexeme (.word (String.ofList chars)) chars rest
  | text {opening close : Char} {written meant rest : List Char} (h : Encloses opening close)
      (hwritten : StandsFor close written meant) :
      IsLexeme (.text (String.ofList meant)) (opening :: (written ++ [close])) rest

/-- The characters are a blank, a comment or a continuation, if these others stand behind them. A
continuation takes the line end away, and nothing has to be taken away at the end of a text. -/
inductive IsFiller : List Char → List Char → Prop
  | blank {c : Char} (rest : List Char) (h : isBlank c = true) (hline : c ≠ '\n') :
      IsFiller [c] rest
  | comment {chars rest : List Char} (h : '\n' ∉ chars) (hrest : ∀ c ∈ rest.head?, c = '\n') :
      IsFiller ('#' :: chars) rest
  | continuation {returns : List Char} (rest : List Char) (h : ∀ c ∈ returns, c = '\r') :
      IsFiller ('\\' :: (returns ++ ['\n'])) rest
  | unfinished {returns : List Char} (h : ∀ c ∈ returns, c = '\r') : IsFiller ('\\' :: returns) []

/-- The characters are those behind the opening character of a text that is not closed. -/
def Unclosed (close : Char) (chars : List Char) : Prop :=
  ∃ written meant, StandsFor close written meant ∧ (chars = written ∨ chars = written ++ ['\\'])

/-- The characters start with what is no piece. The fault is found behind the first ones. -/
inductive Offends : List Char → List Char → SourceFault → Prop
  | parenthesis (rest : List Char) : Offends [] (')' :: rest) .strayParenthesis
  | continuation {returns : List Char} {c : Char} (rest : List Char) (h : ∀ c ∈ returns, c = '\r')
      (hreturn : c ≠ '\r') (hline : c ≠ '\n') :
      Offends ('\\' :: returns) ('\\' :: (returns ++ c :: rest)) .brokenContinuation
  | text {opening close : Char} {chars : List Char} (h : Encloses opening close)
      (hchars : Unclosed close chars) : Offends [] (opening :: chars) .unterminatedText

/-- The tokens of the stream with some others in front of them. -/
def TokenStream.prepend (tokens : List Token) (stream : TokenStream) : TokenStream :=
  ⟨tokens ++ stream.tokens, stream.stop⟩

section Scan

variable {pos start : Position} {mode next : ScanMode} {c close : Char} {chars rest : List Char}

theorem map_prepend_nil (result : Except SourceError TokenStream) :
    result.map (TokenStream.prepend []) = result := by
  cases result <;> rfl

theorem map_prepend_prepend (tokens more : List Token) (result : Except SourceError TokenStream) :
    (result.map (TokenStream.prepend more)).map (TokenStream.prepend tokens) =
      result.map (TokenStream.prepend (tokens ++ more)) := by
  cases result with
  | error e => rfl
  | ok stream =>
      simp only [Except.map, TokenStream.prepend, List.append_assoc]

theorem scan_cons_of_silent (h : scanStep mode pos c = .ok ([], next)) (cs : List Char) :
    scan mode pos (c :: cs) = scan next (pos.after c) cs :=
  (scan_cons_of_ok h cs).trans (map_prepend_nil _)

theorem Position.afterAll_cons (pos : Position) (c : Char) (cs : List Char) :
    pos.afterAll (c :: cs) = (pos.after c).afterAll cs := rfl

theorem Position.afterAll_append (pos : Position) (cs ds : List Char) :
    pos.afterAll (cs ++ ds) = (pos.afterAll cs).afterAll ds := List.foldl_append

theorem ofChar?_eq_none_of_isBlank (h : isBlank c = true) (hline : c ≠ '\n') :
    Mark.ofChar? c = none := by
  refine Option.eq_none_iff_forall_ne_some.2 fun mark hmark => ?_
  obtain rfl := Mark.ofChar?_eq_some_iff.1 hmark
  cases mark with
  | newline => exact hline rfl
  | _ => exact absurd h (by decide)

theorem scanBlank_blank (pos : Position) (h : isBlank c = true) (hline : c ≠ '\n') :
    scanBlank pos c = .ok ([], .blank) := by
  have hne : ∀ d, isBlank d = false → c ≠ d := by
    rintro d hd rfl
    rw [h] at hd
    cases hd
  rw [scanBlank, ofChar?_eq_none_of_isBlank h hline]
  simp only [if_neg (hne ')' (by decide)), if_neg (hne '#' (by decide)),
    if_neg (hne '\\' (by decide)), if_neg (hne '"' (by decide)), if_neg (hne '(' (by decide)),
    if_pos h]

theorem isWordChar_iff : isWordChar c = true ↔
    isBlank c = false ∧ Mark.ofChar? c = none ∧ c ≠ '"' ∧ c ≠ '(' ∧ c ≠ ')' ∧ c ≠ '\\' := by
  simp [isWordChar, and_assoc]

theorem scanBlank_word (pos : Position) (h : isWordChar c = true) (hne : c ≠ '#') :
    scanBlank pos c = .ok ([], .word pos [c]) := by
  obtain ⟨hblank, hmark, hquote, hopen, hclose, hbackslash⟩ := isWordChar_iff.1 h
  rw [scanBlank, hmark]
  simp only [if_neg hclose, if_neg hne, if_neg hbackslash, if_neg hquote, if_neg hopen, hblank]
  rfl

theorem scanBlank_opening (pos : Position) {opening : Char} (h : Encloses opening close) :
    scanBlank pos opening = .ok ([], .text pos close []) := by
  cases h <;> rfl

theorem scanBlank_mark (pos : Position) (mark : Mark) :
    scanBlank pos mark.char = .ok ([⟨.mark mark, pos⟩], .blank) := by
  rw [scanBlank, mark.ofChar?_char]

/-- A word ends where it cannot go on. -/
theorem scan_word_end (start : Position) (chars : List Char) (pos : Position)
    (hrest : ∀ c ∈ rest.head?, isWordChar c = false) :
    scan (.word start chars) pos rest =
      (scan .blank pos rest).map (TokenStream.prepend [wordToken start chars]) := by
  cases rest with
  | nil => rfl
  | cons c rest =>
      have hc : ¬isWordChar c = true := by
        rw [hrest c rfl]
        exact Bool.false_ne_true
      have hword : scanStep (.word start chars) pos c = (scanBlank pos c).map
          fun step => (wordToken start chars :: step.1, step.2) := if_neg hc
      have hblank : scanStep .blank pos c = scanBlank pos c := rfl
      -- The character behind the word is scanned as between tokens, and its tokens stand behind.
      rw [scan, scan, hword, hblank]
      cases scanBlank pos c with
      | error e => rfl
      | ok step => exact (map_prepend_prepend [wordToken start chars] step.1 _).symm

theorem scan_word_chars {more : List Char} (start : Position) (chars : List Char) (pos : Position)
    (hmore : ∀ c ∈ more, isWordChar c = true) :
    scan (.word start chars) pos (more ++ rest) =
      scan (.word start (more.reverse ++ chars)) (pos.afterAll more) rest := by
  induction more generalizing chars pos with
  | nil => rfl
  | cons c more ih =>
      obtain ⟨hc, hmore⟩ := List.forall_mem_cons.1 hmore
      have hstep : scanStep (.word start chars) pos c = .ok ([], .word start (c :: chars)) :=
        if_pos hc
      rw [List.cons_append, scan_cons_of_silent hstep, ih _ _ hmore, List.reverse_cons,
        List.append_assoc, Position.afterAll_cons]
      rfl

/-- A comment ends in front of the line end. -/
theorem scan_comment (pos : Position) (h : '\n' ∉ chars) (hrest : ∀ c ∈ rest.head?, c = '\n') :
    scan .comment pos (chars ++ rest) = scan .blank (pos.afterAll chars) rest := by
  induction chars generalizing pos with
  | nil =>
      cases rest with
      | nil => rfl
      | cons c rest =>
          obtain rfl := hrest c rfl
          rfl
  | cons c chars ih =>
      obtain ⟨hc, hchars⟩ := not_or.1 (mt List.mem_cons.2 h)
      have hstep : scanStep .comment pos c = .ok ([], .comment) := if_neg (Ne.symm hc)
      rw [List.cons_append, scan_cons_of_silent hstep, ih _ hchars, Position.afterAll_cons]

theorem scan_returns (pos : Position) (h : ∀ c ∈ chars, c = '\r') :
    scan .continuation pos (chars ++ rest) = scan .continuation (pos.afterAll chars) rest := by
  induction chars generalizing pos with
  | nil => rfl
  | cons c chars ih =>
      obtain ⟨rfl, hchars⟩ := List.forall_mem_cons.1 h
      exact (scan_cons_of_silent rfl _).trans (ih _ hchars)

theorem escaped_of_mem (h : c ∈ escapables) : escaped c = [c] := by
  simp only [escapables, List.mem_cons, List.not_mem_nil, or_false] at h
  exact if_pos h

theorem escaped_of_notMem (h : c ∉ escapables) : escaped c = [c, '\\'] := by
  simp only [escapables, List.mem_cons, List.not_mem_nil, or_false] at h
  exact if_neg h

/-- What stands in front of a closing character becomes what it stands for. -/
theorem scan_standsFor {written meant : List Char} (h : StandsFor close written meant)
    (hclose : close ≠ '\\') (start : Position) (chars : List Char) (pos : Position) :
    scan (.text start close chars) pos (written ++ rest) =
      scan (.text start close (meant.reverse ++ chars)) (pos.afterAll written) rest := by
  have hbackslash : ∀ chars pos, scanStep (.text start close chars) pos '\\' =
      .ok ([], .escape start close chars) := fun _ _ => (if_neg hclose.symm).trans (if_pos rfl)
  induction h generalizing chars pos with
  | nil => rfl
  | @plain c written meant hc hne _ ih =>
      have hstep : scanStep (.text start close chars) pos c =
          .ok ([], .text start close (c :: chars)) := (if_neg hc).trans (if_neg hne)
      rw [List.cons_append, scan_cons_of_silent hstep, ih, List.reverse_cons, List.append_assoc,
        Position.afterAll_cons]
      rfl
  | @escaped c written meant hc _ ih =>
      have hstep : scanStep (.escape start close chars) (pos.after '\\') c =
          .ok ([], .text start close ([c] ++ chars)) := by rw [scanStep, escaped_of_mem hc]
      rw [List.cons_append, List.cons_append, scan_cons_of_silent (hbackslash _ _),
        scan_cons_of_silent hstep, ih, List.reverse_cons, List.append_assoc]
      rfl
  | @kept c written meant hc _ ih =>
      have hstep : scanStep (.escape start close chars) (pos.after '\\') c =
          .ok ([], .text start close ([c, '\\'] ++ chars)) := by rw [scanStep, escaped_of_notMem hc]
      rw [List.cons_append, List.cons_append, scan_cons_of_silent (hbackslash _ _),
        scan_cons_of_silent hstep, ih, List.reverse_cons, List.reverse_cons, List.append_assoc,
        List.append_assoc]
      rfl

theorem Encloses.close_ne {opening : Char} (h : Encloses opening close) : close ≠ '\\' := by
  cases h <;> decide

/-- A filler leaves nothing behind. -/
theorem scan_filler {piece : List Char} (h : IsFiller piece rest) (pos : Position) :
    scan .blank pos (piece ++ rest) = scan .blank (pos.afterAll piece) rest := by
  cases h with
  | @blank c _ hblank hline =>
      have hstep : scanStep .blank pos c = .ok ([], .blank) := scanBlank_blank pos hblank hline
      exact scan_cons_of_silent hstep rest
  | comment hchars hrest =>
      exact (scan_cons_of_silent rfl _).trans (scan_comment _ hchars hrest)
  | @continuation returns _ hreturns =>
      rw [List.cons_append, List.append_assoc, scan_cons_of_silent rfl, scan_returns _ hreturns,
        Position.afterAll_cons, Position.afterAll_append]
      exact scan_cons_of_silent rfl rest
  | unfinished hreturns =>
      rw [List.cons_append, scan_cons_of_silent rfl, scan_returns _ hreturns]
      rfl

/-- A lexeme becomes a token at the place where it starts. -/
theorem scan_lexeme {kind : TokenKind} {piece : List Char} (h : IsLexeme kind piece rest)
    (pos : Position) :
    scan .blank pos (piece ++ rest) =
      (scan .blank (pos.afterAll piece) rest).map (TokenStream.prepend [⟨kind, pos⟩]) := by
  cases h with
  | mark mark =>
      have hstep : scanStep .blank pos mark.char = .ok ([⟨.mark mark, pos⟩], .blank) :=
        scanBlank_mark pos mark
      exact scan_cons_of_ok hstep rest
  | word h hrest =>
      obtain ⟨hne, hstart, hchars⟩ := h
      cases piece with
      | nil => exact absurd rfl hne
      | cons c more =>
          obtain ⟨hc, hmore⟩ := List.forall_mem_cons.1 hchars
          have hstep : scanStep .blank pos c = .ok ([], .word pos [c]) :=
            scanBlank_word pos hc fun heq => hstart (congrArg some heq)
          rw [List.cons_append, scan_cons_of_silent hstep, scan_word_chars _ _ _ hmore,
            scan_word_end _ _ _ hrest, wordToken, List.reverse_append, List.reverse_reverse]
          rfl
  | @text opening close written meant _ hencloses hwritten =>
      have hopen : scanStep .blank pos opening = .ok ([], .text pos close []) :=
        scanBlank_opening pos hencloses
      have hclose : ∀ pos', scanStep (.text pos close (meant.reverse ++ [])) pos' close =
          .ok ([⟨.text (String.ofList meant), pos⟩], .blank) := by
        intro pos'
        rw [scanStep, if_pos rfl, textToken, List.append_nil, List.reverse_reverse]
      rw [List.cons_append, List.append_assoc, scan_cons_of_silent hopen,
        scan_standsFor hwritten hencloses.close_ne, Position.afterAll_cons,
        Position.afterAll_append]
      exact scan_cons_of_ok (hclose _) rest

/-- What is no piece is an error behind its first characters. -/
theorem scan_offends {first : List Char} {fault : SourceFault} (h : Offends first rest fault)
    (pos : Position) : scan .blank pos rest = .error ⟨pos.afterAll first, fault⟩ := by
  cases h with
  | parenthesis => rfl
  | @continuation returns c rest hreturns hreturn hline =>
      have hstep : ∀ pos, scanStep .continuation pos c = .error ⟨pos, .brokenContinuation⟩ :=
        fun _ => (if_neg hline).trans (if_neg hreturn)
      rw [scan_cons_of_silent rfl, scan_returns _ hreturns, scan_cons_of_error (hstep _)]
      rfl
  | @text opening close chars hencloses hunclosed =>
      have hopen : scanStep .blank pos opening = .ok ([], .text pos close []) :=
        scanBlank_opening pos hencloses
      obtain ⟨written, meant, hwritten, rfl | rfl⟩ := hunclosed
      · rw [scan_cons_of_silent hopen, ← List.append_nil chars,
          scan_standsFor hwritten hencloses.close_ne]
        rfl
      · have hbackslash : ∀ chars pos', scanStep (.text pos close chars) pos' '\\' =
            .ok ([], .escape pos close chars) :=
          fun _ _ => (if_neg hencloses.close_ne.symm).trans (if_pos rfl)
        rw [scan_cons_of_silent hopen, scan_standsFor hwritten hencloses.close_ne,
          scan_cons_of_silent (hbackslash _ _)]
        rfl

end Scan

section Start

variable {chars : List Char}

/-- What a text starts with. -/
inductive Start : List Char → Prop
  | filler {piece rest : List Char} (h : IsFiller piece rest) : Start (piece ++ rest)
  | lexeme {kind : TokenKind} {piece rest : List Char} (h : IsLexeme kind piece rest) :
      Start (piece ++ rest)
  | fault {first rest : List Char} {fault : SourceFault} (h : Offends first rest fault) : Start rest

/-- The characters at the start that pass a test, as many as there are. -/
theorem exists_span (p : Char → Bool) (chars : List Char) :
    ∃ first rest, chars = first ++ rest ∧ (∀ c ∈ first, p c = true) ∧
      ∀ c ∈ rest.head?, p c = false := by
  exact ⟨chars.takeWhile p, chars.dropWhile p, List.takeWhile_append_dropWhile.symm,
    fun c hc => List.mem_takeWhile_imp hc, fun _ => eq_false_of_mem_head?_dropWhile⟩

theorem start_comment (chars : List Char) : Start ('#' :: chars) := by
  obtain ⟨first, rest, rfl, hfirst, hrest⟩ := exists_span (· != '\n') chars
  have hcomment : IsFiller ('#' :: first) rest := by
    refine .comment (fun hmem => absurd (hfirst _ hmem) (by decide)) fun c hc => ?_
    simpa using hrest c hc
  exact Start.filler hcomment

theorem start_backslash (chars : List Char) : Start ('\\' :: chars) := by
  obtain ⟨returns, rest, rfl, hreturns, hrest⟩ := exists_span (· == '\r') chars
  have hreturns : ∀ c ∈ returns, c = '\r' := fun c hc => beq_iff_eq.1 (hreturns c hc)
  cases rest with
  | nil =>
      have hunfinished : IsFiller ('\\' :: returns) [] := .unfinished hreturns
      exact Start.filler hunfinished
  | cons c rest =>
      have hreturn : c ≠ '\r' := beq_eq_false_iff_ne.1 (hrest c rfl)
      by_cases hline : c = '\n'
      · have hstart : Start ('\\' :: (returns ++ ['\n']) ++ rest) :=
          .filler (.continuation rest hreturns)
        rwa [List.cons_append, List.append_assoc, List.singleton_append, ← hline] at hstart
      · exact .fault (.continuation rest hreturns hreturn hline)

/-- A text is closed, or it never is. -/
theorem closed_or_unclosed (close : Char) (chars : List Char) :
    (∃ written meant rest, StandsFor close written meant ∧ chars = written ++ close :: rest) ∨
      Unclosed close chars := by
  match chars with
  | [] => exact .inr ⟨[], [], .nil, .inl rfl⟩
  | c :: chars =>
      by_cases hclose : c = close
      · exact .inl ⟨[], [], chars, .nil, by rw [hclose]; rfl⟩
      by_cases hbackslash : c = '\\'
      · subst hbackslash
        match chars with
        | [] => exact .inr ⟨[], [], .nil, .inr rfl⟩
        | d :: chars =>
            have hpair : ∀ {written meant}, StandsFor close written meant →
                ∃ meant', StandsFor close ('\\' :: d :: written) meant' := by
              intro written meant h
              by_cases hd : d ∈ escapables
              · exact ⟨_, .escaped hd h⟩
              · exact ⟨_, .kept hd h⟩
            rcases closed_or_unclosed close chars with
              ⟨written, meant, rest, h, rfl⟩ | ⟨written, meant, h, hend⟩
            · obtain ⟨meant', h'⟩ := hpair h
              exact .inl ⟨_, meant', rest, h', rfl⟩
            · obtain ⟨meant', h'⟩ := hpair h
              refine .inr ⟨_, meant', h', hend.imp ?_ ?_⟩ <;> rintro rfl <;> rfl
      · rcases closed_or_unclosed close chars with
          ⟨written, meant, rest, h, rfl⟩ | ⟨written, meant, h, hend⟩
        · exact .inl ⟨_, _, rest, .plain hclose hbackslash h, rfl⟩
        · refine .inr ⟨_, _, .plain hclose hbackslash h, hend.imp ?_ ?_⟩ <;> rintro rfl <;> rfl

theorem start_opening {opening close : Char} (h : Encloses opening close) (chars : List Char) :
    Start (opening :: chars) := by
  rcases closed_or_unclosed close chars with ⟨written, meant, rest, hwritten, rfl⟩ | hunclosed
  · have hstart : Start (opening :: (written ++ [close]) ++ rest) := .lexeme (.text h hwritten)
    rwa [List.cons_append, List.append_assoc, List.singleton_append] at hstart
  · exact .fault (.text h hunclosed)

theorem start_word {c : Char} (hc : isWordChar c = true) (hne : c ≠ '#') (chars : List Char) :
    Start (c :: chars) := by
  obtain ⟨more, rest, rfl, hmore, hrest⟩ := exists_span isWordChar chars
  have hbare : IsBareWord (c :: more) :=
    ⟨List.cons_ne_nil _ _, fun heq => hne (Option.some.inj heq), List.forall_mem_cons.2 ⟨hc, hmore⟩⟩
  have hlexeme : IsLexeme (.word (String.ofList (c :: more))) (c :: more) rest := .word hbare hrest
  exact Start.lexeme hlexeme

/-- Every text that is not empty starts with a piece or with a fault. -/
theorem start_cons (c : Char) (chars : List Char) : Start (c :: chars) := by
  by_cases hword : isWordChar c = true
  · by_cases hne : c = '#'
    · exact hne ▸ start_comment chars
    · exact start_word hword hne chars
  cases hmark : Mark.ofChar? c with
  | some mark =>
      rw [Mark.ofChar?_eq_some_iff.1 hmark]
      exact Start.lexeme (IsLexeme.mark mark chars)
  | none =>
      by_cases hblank : isBlank c = true
      · have hline : c ≠ '\n' := by
          rintro rfl
          cases hmark
        exact Start.filler (IsFiller.blank chars hblank hline)
      · -- What is neither blank nor a mark can be part of a word, but for four characters.
        simp only [isWordChar_iff, hblank, hmark, true_and, not_and_or, not_not] at hword
        rcases hword with rfl | rfl | rfl | rfl
        · exact start_opening .quotes chars
        · exact start_opening .parentheses chars
        · exact .fault (.parenthesis chars)
        · exact start_backslash chars

end Start

end WindowActions
