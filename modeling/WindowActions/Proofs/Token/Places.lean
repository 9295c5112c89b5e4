import Mathlib.Data.List.Forall2
import WindowActions.Token.Scan

/-!
# Tokens and their places

Scanning looks at the characters and never at the places, so the same characters at another place
become the same tokens at other places. `scan_alike` says this for any relation between places that
goes along with the characters: it may be that one place stands some lines below the other, and it
may be no relation at all.

`scanAlong` is what is known behind a part of a text, and `scan_append` cuts a text in two there. So
the tokens of two texts with a line end between them are those of the first text, the line end and
those of the second one (`scan_line`), unless a backslash takes the line end away.
-/

namespace WindowActions

/-- Two outcomes of the same kind: related errors, or related results. -/
inductive SameOutcome {ε ε' α α' : Type} (E : ε → ε' → Prop) (A : α → α' → Prop) :
    Except ε α → Except ε' α' → Prop
  | error {e : ε} {e' : ε'} (h : E e e') : SameOutcome E A (.error e) (.error e')
  | ok {a : α} {a' : α'} (h : A a a') : SameOutcome E A (.ok a) (.ok a')

namespace SameOutcome

variable {ε ε' α α' β β' : Type} {E : ε → ε' → Prop} {A : α → α' → Prop} {B : β → β' → Prop}
  {result : Except ε α} {result' : Except ε' α'}

theorem map (h : SameOutcome E A result result') {f : α → β} {f' : α' → β'}
    (hf : ∀ a a', A a a' → B (f a) (f' a')) :
    SameOutcome E B (result.map f) (result'.map f') := by
  cases h with
  | error he => exact .error he
  | ok ha => exact .ok (hf _ _ ha)

theorem exists_error {e : ε} (h : SameOutcome E A (.error e) result') :
    ∃ e', result' = .error e' ∧ E e e' := by
  cases h with
  | error he => exact ⟨_, rfl, he⟩

theorem exists_ok {a : α} (h : SameOutcome E A (.ok a) result') :
    ∃ a', result' = .ok a' ∧ A a a' := by
  cases h with
  | ok ha => exact ⟨_, rfl, ha⟩

theorem eq_iff {result result' : Except ε α} :
    SameOutcome Eq Eq result result' ↔ result = result' := by
  constructor
  · rintro (⟨⟨⟩⟩ | ⟨⟨⟩⟩) <;> rfl
  · rintro rfl
    cases result with
    | error e => exact .error rfl
    | ok a => exact .ok rfl

end SameOutcome

section Alike

variable (R : Position → Position → Prop)

/-- Tokens of one kind at related places. -/
structure Token.Alike (t t' : Token) : Prop where
  kind : t.kind = t'.kind
  pos : R t.pos t'.pos

/-- The same fault at related places. -/
structure SourceError.Alike (e e' : SourceError) : Prop where
  fault : e.fault = e'.fault
  pos : R e.pos e'.pos

structure TokenStream.Alike (s s' : TokenStream) : Prop where
  tokens : List.Forall₂ (Token.Alike R) s.tokens s'.tokens
  stop : R s.stop s'.stop

/-- The same is left open, from related places on. -/
inductive ScanMode.Alike : ScanMode → ScanMode → Prop
  | blank : Alike .blank .blank
  | word {start start' : Position} {chars : List Char} (h : R start start') :
      Alike (.word start chars) (.word start' chars)
  | comment : Alike .comment .comment
  | text {start start' : Position} {close : Char} {chars : List Char} (h : R start start') :
      Alike (.text start close chars) (.text start' close chars)
  | escape {start start' : Position} {close : Char} {chars : List Char} (h : R start start') :
      Alike (.escape start close chars) (.escape start' close chars)
  | continuation : Alike .continuation .continuation

/-- The outcomes of two steps that complete the same tokens and leave the same open. -/
abbrev SameStep : Except SourceError (List Token × ScanMode) →
    Except SourceError (List Token × ScanMode) → Prop :=
  SameOutcome (SourceError.Alike R) fun step step' =>
    List.Forall₂ (Token.Alike R) step.1 step'.1 ∧ ScanMode.Alike R step.2 step'.2

end Alike

section Scan

variable {R : Position → Position → Prop} {pos pos' : Position} {mode mode' : ScanMode}

theorem scanBlank_alike (hpos : R pos pos') (c : Char) :
    SameStep R (scanBlank pos c) (scanBlank pos' c) := by
  rw [scanBlank, scanBlank]
  cases Mark.ofChar? c with
  | some mark => exact .ok ⟨.cons ⟨rfl, hpos⟩ .nil, .blank⟩
  | none =>
      simp only
      split
      · exact .error ⟨rfl, hpos⟩
      split
      · exact .ok ⟨.nil, .comment⟩
      split
      · exact .ok ⟨.nil, .continuation⟩
      split
      · exact .ok ⟨.nil, .text hpos⟩
      split
      · exact .ok ⟨.nil, .text hpos⟩
      split
      · exact .ok ⟨.nil, .blank⟩
      · exact .ok ⟨.nil, .word hpos⟩

theorem scanStep_alike (hmode : ScanMode.Alike R mode mode') (hpos : R pos pos') (c : Char) :
    SameStep R (scanStep mode pos c) (scanStep mode' pos' c) := by
  cases hmode with
  | blank => exact scanBlank_alike hpos c
  | word hstart =>
      rw [scanStep, scanStep]
      split
      · exact .ok ⟨.nil, .word hstart⟩
      · exact (scanBlank_alike hpos c).map fun _ _ h => ⟨.cons ⟨rfl, hstart⟩ h.1, h.2⟩
  | comment =>
      rw [scanStep, scanStep]
      split
      · exact scanBlank_alike hpos c
      · exact .ok ⟨.nil, .comment⟩
  | text hstart =>
      rw [scanStep, scanStep]
      split
      · exact .ok ⟨.cons ⟨rfl, hstart⟩ .nil, .blank⟩
      split
      · exact .ok ⟨.nil, .escape hstart⟩
      · exact .ok ⟨.nil, .text hstart⟩
  | escape hstart => exact .ok ⟨.nil, .text hstart⟩
  | continuation =>
      rw [scanStep, scanStep]
      split
      · exact .ok ⟨.nil, .blank⟩
      split
      · exact .ok ⟨.nil, .continuation⟩
      · exact .error ⟨rfl, hpos⟩

theorem scanEnd_alike (hmode : ScanMode.Alike R mode mode') :
    SameOutcome (SourceError.Alike R) (List.Forall₂ (Token.Alike R)) (scanEnd mode)
      (scanEnd mode') := by
  cases hmode with
  | blank | comment | continuation => exact .ok .nil
  | word hstart => exact .ok (.cons ⟨rfl, hstart⟩ .nil)
  | text hstart | escape hstart => exact .error ⟨rfl, hstart⟩

/-- The same characters at related places become the same tokens at related places, or are rejected
for the same reason. -/
theorem scan_alike (hafter : ∀ pos pos' c, R pos pos' → R (pos.after c) (pos'.after c))
    (hmode : ScanMode.Alike R mode mode') (hpos : R pos pos') (cs : List Char) :
    SameOutcome (SourceError.Alike R) (TokenStream.Alike R) (scan mode pos cs)
      (scan mode' pos' cs) := by
  induction cs generalizing mode mode' pos pos' with
  | nil => exact (scanEnd_alike hmode).map fun _ _ h => ⟨h, hpos⟩
  | cons c cs ih =>
      rw [scan, scan]
      have hstep := scanStep_alike hmode hpos c
      generalize scanStep mode pos c = step, scanStep mode' pos' c = step' at hstep
      cases hstep with
      | error he => exact .error he
      | ok h =>
          exact (ih h.2 (hafter pos pos' c hpos)).map fun _ _ hstream =>
            ⟨List.rel_append h.1 hstream.tokens, hstream.stop⟩

end Scan

/-- The place behind some characters. -/
def Position.afterAll (pos : Position) (cs : List Char) : Position := cs.foldl Position.after pos

theorem Position.line_after (pos : Position) (c : Char) :
    (pos.after c).line = pos.line + [c].count '\n' := by
  rw [after]
  split
  next hc => rw [hc, List.count_singleton_self]
  next hc => rw [List.count_singleton, beq_eq_false_iff_ne.2 hc]; rfl

theorem Position.line_afterAll (pos : Position) (cs : List Char) :
    (pos.afterAll cs).line = pos.line + cs.count '\n' := by
  induction cs generalizing pos with
  | nil => rfl
  | cons c cs ih =>
      have hline : (pos.afterAll (c :: cs)).line = (pos.after c).line + cs.count '\n' := ih _
      rw [hline, line_after, Nat.add_assoc, ← List.count_append, List.singleton_append]

section Along

/-- The tokens that some characters complete, and what is open behind them. -/
def scanAlong (mode : ScanMode) (pos : Position) :
    List Char → Except SourceError (List Token × ScanMode)
  | [] => .ok ([], mode)
  | c :: cs =>
    match scanStep mode pos c with
    | .error e => .error e
    | .ok (tokens, mode) =>
      (scanAlong mode (pos.after c) cs).map fun (more, mode) => (tokens ++ more, mode)

/-- A text is scanned in two parts, the second one from what the first one has left open. -/
theorem scan_append (mode : ScanMode) (pos : Position) (cs ds : List Char) :
    scan mode pos (cs ++ ds) =
      match scanAlong mode pos cs with
      | .error e => .error e
      | .ok (tokens, mode) =>
        (scan mode (pos.afterAll cs) ds).map fun stream => ⟨tokens ++ stream.tokens, stream.stop⟩
      := by
  induction cs generalizing mode pos with
  | nil =>
      show scan mode pos ds = (scan mode pos ds).map _
      cases scan mode pos ds <;> rfl
  | cons c cs ih =>
      rw [List.cons_append, scan, scanAlong]
      cases scanStep mode pos c with
      | error e => rfl
      | ok step =>
          simp only [ih]
          cases scanAlong step.2 (pos.after c) cs with
          | error e => rfl
          | ok along =>
              have hplace : pos.afterAll (c :: cs) = (pos.after c).afterAll cs := rfl
              simp only [Except.map, hplace]
              cases scan along.2 ((pos.after c).afterAll cs) ds with
              | error e => rfl
              | ok stream => simp only [List.append_assoc]

/-- The text ends behind a backslash that takes the line end behind it away. -/
def EndsInContinuation (source : String) : Prop :=
  ∃ tokens, scanAlong .blank .start source.toList = .ok (tokens, .continuation)

/-- The end of a line as a token, unless a backslash takes it away. -/
def ScanMode.lineEnd (mode : ScanMode) (pos : Position) : List Token :=
  match mode with
  | .continuation => []
  | _ => [⟨.mark .newline, pos⟩]

/-- The end of a line completes what the end of the text would have completed. -/
theorem scanStep_newline {mode : ScanMode} {last : List Token} (h : scanEnd mode = .ok last)
    (pos : Position) :
    scanStep mode pos '\n' = .ok (last ++ mode.lineEnd pos, .blank) := by
  cases mode <;> cases h <;> rfl

variable {source : String} {stream : TokenStream}

/-- A text that is scanned is scanned up to its end, and nothing that is open there is missing. -/
theorem exists_scanAlong (h : tokenize source = .ok stream) :
    ∃ tokens mode last, scanAlong .blank .start source.toList = .ok (tokens, mode) ∧
      scanEnd mode = .ok last ∧ stream.tokens = tokens ++ last := by
  rw [tokenize, ← List.append_nil source.toList, scan_append] at h
  cases halong : scanAlong .blank .start source.toList with
  | error e =>
      rw [halong] at h
      cases h
  | ok along =>
      simp only [halong, scan_nil] at h
      cases hend : scanEnd along.2 with
      | error e =>
          rw [hend] at h
          cases h
      | ok last =>
          rw [hend] at h
          cases h
          exact ⟨along.1, along.2, last, rfl, hend, rfl⟩

/-- Behind a text and a line end, scanning starts afresh on the next line. -/
theorem scan_line (h : tokenize source = .ok stream) :
    ∃ (mode : ScanMode) (pos : Position), (mode = .continuation → EndsInContinuation source) ∧
      ∀ cs, scan .blank .start (source.toList ++ '\n' :: cs) =
        (scan .blank ⟨source.toList.count '\n' + 2, 1⟩ cs).map fun behind =>
          ⟨stream.tokens ++ (mode.lineEnd pos ++ behind.tokens), behind.stop⟩ := by
  obtain ⟨tokens, mode, last, halong, hend, htokens⟩ := exists_scanAlong h
  refine ⟨mode, Position.start.afterAll source.toList, ?_, fun cs => ?_⟩
  · rintro rfl
    exact ⟨tokens, halong⟩
  · have hline : (Position.start.afterAll source.toList).after '\n' =
        ⟨source.toList.count '\n' + 2, 1⟩ := by
      rw [Position.after, if_pos rfl, Position.line_afterAll, Position.start, Nat.add_comm 1]
    simp only [scan_append, halong, scan_cons_of_ok (scanStep_newline hend _), hline]
    cases scan .blank ⟨source.toList.count '\n' + 2, 1⟩ cs with
    | error e => rfl
    | ok behind => simp only [Except.map, htokens, List.append_assoc]

end Along

section Lines

variable {lines : Nat}

/-- The same column, so many lines further down. -/
def Position.IsBelow (lines : Nat) (pos pos' : Position) : Prop :=
  pos' = ⟨pos.line + lines, pos.column⟩

theorem Position.IsBelow.after {pos pos' : Position} (h : IsBelow lines pos pos') (c : Char) :
    IsBelow lines (pos.after c) (pos'.after c) := by
  obtain rfl : pos' = ⟨pos.line + lines, pos.column⟩ := h
  unfold IsBelow Position.after
  split
  · rw [Nat.add_right_comm]
  · rfl

/-- The same error, so many lines further down. -/
def SourceError.below (lines : Nat) (e : SourceError) : SourceError :=
  ⟨⟨e.pos.line + lines, e.pos.column⟩, e.fault⟩

theorem SourceError.Alike.eq_below {e e' : SourceError}
    (h : SourceError.Alike (Position.IsBelow lines) e e') : e' = e.below lines := by
  obtain ⟨pos', fault'⟩ := e'
  obtain ⟨rfl, rfl⟩ := h
  rfl

/-- The number of lines that a text and a line end behind it take. -/
def linesOf (source : String) : Nat := source.toList.count '\n' + 1

/-- The tokens of two texts with a line end between them, unless a backslash takes it away. -/
theorem tokenize_lines {first : String} {stream : TokenStream} (h : tokenize first = .ok stream)
    (hend : ¬EndsInContinuation first) (second : String) :
    SameOutcome (fun e e' => e' = e.below (linesOf first))
      (fun behind whole => ∃ pos behind',
        TokenStream.Alike (Position.IsBelow (linesOf first)) behind behind' ∧
          whole = ⟨stream.tokens ++ ⟨.mark .newline, pos⟩ :: behind'.tokens, behind'.stop⟩)
      (tokenize second) (tokenize (first ++ "\n" ++ second)) := by
  obtain ⟨mode, pos, hmode, hscan⟩ := scan_line h
  have hline : mode.lineEnd pos = [⟨.mark .newline, pos⟩] := by
    cases mode with
    | continuation => exact absurd (hmode rfl) hend
    | blank | word | comment | text | escape => rfl
  have hstart : Position.IsBelow (linesOf first) .start ⟨first.toList.count '\n' + 2, 1⟩ := by
    rw [Position.IsBelow, linesOf, Position.start, Nat.add_comm 1]
  have htext : (first ++ "\n" ++ second).toList = first.toList ++ '\n' :: second.toList := by
    rw [String.toList_append, String.toList_append, List.append_assoc]
    rfl
  have hwhole := hscan second.toList
  rw [hline, ← htext] at hwhole
  rw [tokenize, tokenize, hwhole]
  have halike := scan_alike (R := Position.IsBelow (linesOf first))
    (fun _ _ c hpos => hpos.after c) .blank hstart second.toList
  generalize scan .blank .start second.toList = result at halike
  generalize scan .blank ⟨first.toList.count '\n' + 2, 1⟩ second.toList = result' at halike
  cases halike with
  | error he => exact .error he.eq_below
  | ok hstream => exact .ok ⟨pos, _, hstream, rfl⟩

end Lines

/-- The same characters become tokens of the same kinds wherever they stand. -/
theorem scan_anywhere (pos pos' : Position) (cs : List Char) :
    SameOutcome (SourceError.Alike fun _ _ => True) (TokenStream.Alike fun _ _ => True)
      (scan .blank pos cs) (scan .blank pos' cs) :=
  scan_alike (fun _ _ _ _ => trivial) .blank trivial cs

/-- The tokens of a text between braces, the second one on a line of its own. -/
theorem tokenize_braced {source : String} {stream : TokenStream}
    (h : tokenize source = .ok stream) :
    ∃ (mode : ScanMode) (pos pos' pos'' : Position) (whole : TokenStream),
      tokenize ("\x7b" ++ source ++ "\n\x7d") = .ok whole ∧
        TokenStream.Alike (fun _ _ => True)
          ⟨⟨.mark .leftBrace, pos⟩ ::
            (stream.tokens ++ (mode.lineEnd pos' ++ [⟨.mark .rightBrace, pos''⟩])), stream.stop⟩
          whole := by
  -- The text is scanned from its start as it is from behind the brace, up to the places.
  obtain ⟨mode, pos', -, hscan⟩ := scan_line h
  have htext : ("\x7b" ++ source ++ "\n\x7d").toList = '{' :: (source.toList ++ '\n' :: ['}']) := by
    rw [String.toList_append, String.toList_append]
    rfl
  have hbrace : scan .blank .start (source.toList ++ '\n' :: ['}']) = .ok
      ⟨stream.tokens ++ (mode.lineEnd pos' ++
        [⟨.mark .rightBrace, ⟨source.toList.count '\n' + 2, 1⟩⟩]),
        ⟨source.toList.count '\n' + 2, 2⟩⟩ := by
    rw [hscan]
    rfl
  have hopen : scanStep .blank .start '{' = .ok ([⟨.mark .leftBrace, .start⟩], .blank) := rfl
  have halike := scan_anywhere .start (Position.start.after '{') (source.toList ++ '\n' :: ['}'])
  obtain ⟨behind, hbehind, hstream⟩ := (hbrace ▸ halike).exists_ok
  rw [tokenize, htext, scan_cons_of_ok hopen, hbehind]
  exact ⟨mode, .start, pos', _, _, rfl, .cons ⟨rfl, trivial⟩ hstream.tokens, trivial⟩

end WindowActions
