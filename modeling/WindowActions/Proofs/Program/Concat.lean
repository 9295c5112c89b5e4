import Mathlib
import WindowActions.Proofs.Program.Alike
import WindowActions.Proofs.Program.Deep
import WindowActions.Proofs.Program.Meaning

/-!
# Programs behind each other

A program with another text on the lines behind it becomes the action lists of both, one behind the
other. Whatever keeps the text behind from being a program keeps the whole from being one, and is
found at the same place, so many lines further down. And a program between braces is the program,
unless the braces are one level too many.
-/

namespace WindowActions

section Reading

/-- The same error behind some statements that are complete. -/
structure Rejection.Behind (body : List Statement) (r r' : Rejection) : Prop where
  error : r'.error = r.error
  heard : r'.heard = body.map .statement ++ r.heard

/-- Outcomes for the tokens behind some statements, and for all of the tokens. -/
abbrev ReadBehind (body : List Statement) {m n : Nat} :
    Except Rejection (Reading Token (List Statement) m) →
    Except Rejection (Reading Token (List Statement) n) → Prop :=
  SameOutcome (Rejection.Behind body) fun x x' => x'.value = body ++ x.value

section ReadBehind

variable {body : List Statement} {m n n' : Nat}
  {result : Except Rejection (Reading Token (List Statement) m)}
  {result' : Except Rejection (Reading Token (List Statement) n)}

theorem ReadBehind.refl (result : Except Rejection (Reading Token (List Statement) m)) :
    ReadBehind [] result result := by
  cases result with
  | error r => exact .error ⟨rfl, rfl⟩
  | ok x => exact .ok rfl

theorem ReadBehind.widen (h : ReadBehind body result result') {hn : n ≤ n'} :
    ReadBehind body result (result'.map (·.widen hn)) := by
  cases h with
  | error he => exact .error he
  | ok hx => exact .ok hx

theorem ReadBehind.cons (h : ReadBehind body result result') (s : Statement) {hn : n ≤ n'} :
    ReadBehind (s :: body) result
      ((hearing [.statement s] result').map fun more => (more.map (s :: ·)).widen hn) := by
  cases h with
  | error he => exact .error ⟨he.error, congrArg (Phrase.statement s :: ·) he.heard⟩
  | ok hx => exact .ok (congrArg (s :: ·) hx)

end ReadBehind

/-- The statements at the front of a list are read, and then the rest as if it were the list. -/
theorem BodyAt.readBehind {body : List Statement} {tokens middle : List Token}
    (h : BodyAt Statement.IsClosed body tokens middle) (stop : Position) {levels : Nat}
    (hdepth : bodyDepth body ≤ levels) (hmiddle : Fresh middle) (nested : Bool) :
    ReadBehind body (readList stop (readStatement stop levels) nested middle)
      (readList stop (readStatement stop levels) nested tokens) := by
  match h with
  | .nil => exact .refl _
  | .newline more | .semicolon more =>
      rw [readList]
      exact (more.readBehind stop hdepth hmiddle nested).widen
  | .cons one more =>
      obtain ⟨hone, hmore⟩ := Nat.max_le.1 hdepth
      obtain ⟨hshorter, hs⟩ := one.read stop hone ((more.fresh hmiddle).precedes _)
      obtain ⟨token, tokens, rfl, hnewline, hsemicolon, hbrace⟩ := one.head
      rw [readList_cons hnewline hsemicolon, if_neg fun hend => hbrace hend.2, hs]
      exact (more.readBehind stop hmore hmiddle nested).cons _

/-- The program behind another one is read, or it is rejected as it would be alone. -/
theorem TokenStream.toProgram_lines {p : Program} {tokens : List Token} {lines : Nat}
    {behind behind' : TokenStream} (hp : BodyAt Statement.IsClosed p tokens [])
    (hdepth : bodyDepth p ≤ maxNesting)
    (h : TokenStream.Alike (Position.IsBelow lines) behind behind') (pos : Position) :
    SameOutcome
      (fun r r' => r'.error = r.error.below lines ∧ r'.heard = p.map .statement ++ r.heard)
      (fun q q' => q' = p ++ q) behind.toProgram
      (TokenStream.mk (tokens ++ ⟨.mark .newline, pos⟩ :: behind'.tokens)
        behind'.stop).toProgram := by
  -- The line end keeps whatever stands behind it from being taken for a part of a statement.
  have hall := (hp.append (⟨.mark .newline, pos⟩ :: behind'.tokens)).readBehind behind'.stop hdepth
    ⟨rfl, rfl, rfl⟩ false
  rw [List.nil_append, readList] at hall
  have halike := h.toProgram
  generalize behind.toProgram = program at halike
  rw [toProgram] at halike
  rw [toProgram]
  generalize readList behind'.stop (readStatement behind'.stop maxNesting) false behind'.tokens =
    below at halike hall
  generalize readList behind'.stop (readStatement behind'.stop maxNesting) false
    (tokens ++ ⟨.mark .newline, pos⟩ :: behind'.tokens) = whole at hall
  cases below with
  | error r' =>
      cases halike with
      | error halike =>
          cases hall with
          | error hall =>
              refine .error ⟨hall.error.trans halike.error.eq_below, ?_⟩
              rw [hall.heard, halike.heard]
  | ok more =>
      cases halike with
      | ok halike =>
          cases hall with
          | ok hall => exact .ok (hall.trans (congrArg (p ++ ·) halike.symm))

end Reading

namespace Vocabulary

variable (v : Vocabulary)

theorem resolveBody_append (body body' : List Statement) :
    v.resolveBody (body ++ body') =
      (v.resolveBody body).bind fun entries =>
        (v.resolveBody body').bind fun more => .pure (entries ++ more) := by
  induction body with
  | nil => simp [resolveBody]
  | cons s body ih =>
      simp only [List.cons_append, resolveBody, ih, Resolved.bind_assoc, Resolved.pure_bind,
        List.append_assoc]

theorem resolvePhrases_append (phrases phrases' : List Phrase) :
    v.resolvePhrases (phrases ++ phrases') =
      (v.resolvePhrases phrases).bind fun _ => v.resolvePhrases phrases' := by
  induction phrases with
  | nil => simp [resolvePhrases]
  | cons phrase phrases ih =>
      cases phrase with
      | statement s => simp only [List.cons_append, resolvePhrases, ih, Resolved.bind_assoc]
      | test t => simp only [List.cons_append, resolvePhrases, ih, Resolved.bind_assoc]

end Vocabulary

/-- A list between braces stands where a statement can stand. -/
theorem BodyAt.braced {fits : Statement → Prop} {p : Program} {tokens : List Token}
    (hp : BodyAt fits p tokens []) (mode : ScanMode) (pos pos' pos'' : Position) :
    BodyAt fits [.block p]
      (⟨.mark .leftBrace, pos⟩ ::
        (tokens ++ (mode.lineEnd pos' ++ [⟨.mark .rightBrace, pos''⟩]))) [] := by
  have hline : BodyAt fits [] (mode.lineEnd pos' ++ [⟨.mark .rightBrace, pos''⟩])
      [⟨.mark .rightBrace, pos''⟩] := by
    cases mode with
    | continuation => exact .nil
    | blank | word | comment | text | escape => exact .newline .nil
  have hinside := (hp.append _).trans hline
  rw [List.append_nil] at hinside
  exact .cons (.block hinside) .nil

/-- The same failure, so many lines further down. A misuse has no place. -/
def ParseFailure.below (lines : Nat) : ParseFailure → ParseFailure
  | .source e => .source (e.below lines)
  | .misuse m => .misuse m

namespace Vocabulary

variable {v : Vocabulary} {list : ActionList}

section Lines

variable {p : Program} {lines : Nat}

/-- What is looked up in front of an error does not matter if it misuses no value. -/
theorem ofRejected_lines (hp : (v.resolveBody p).result = .ok list) (e : SourceError)
    (phrases : List Phrase) :
    (Parsed.ofRejected (e.below lines)
        (v.resolvePhrases (p.map .statement ++ phrases))).result =
      ((Parsed.ofRejected e (v.resolvePhrases phrases)).result.mapError (.below lines)).map
        (list ++ ·) := by
  have hphrases := resolvePhrases_eq_ok (allows_of_mem_body ⟨list, hp⟩)
  simp only [Parsed.ofRejected, resolvePhrases_append, Resolved.bind, hphrases]
  cases (v.resolvePhrases phrases).result with
  | error m => rfl
  | ok _ => rfl

theorem ofResolved_lines (hp : (v.resolveBody p).result = .ok list) (q : Program) :
    (Parsed.ofResolved (v.resolveBody (p ++ q))).result =
      ((Parsed.ofResolved (v.resolveBody q)).result.mapError (.below lines)).map (list ++ ·) := by
  simp only [Parsed.ofResolved, resolveBody_append, Resolved.bind, hp]
  cases (v.resolveBody q).result with
  | error m => rfl
  | ok more => rfl

end Lines

/-- A text on the lines behind a program adds the action list that it becomes, or its failure. -/
theorem parse_lines {first : String} (h : (v.parse first).result = .ok list)
    (hend : ¬EndsInContinuation first) (second : String) :
    (v.parse (first ++ "\n" ++ second)).result =
      ((v.parse second).result.mapError (.below (linesOf first))).map (list ++ ·) := by
  obtain ⟨stream, p, htokens, hread, hresolved⟩ := v.exists_stream_of_parse_eq_ok h
  obtain ⟨hp, hdepth⟩ := TokenStream.toProgram_sound hread
  have hlines := tokenize_lines htokens hend second
  rw [parse, parse]
  generalize tokenize second = alone, tokenize (first ++ "\n" ++ second) = whole at hlines
  cases hlines with
  | error he =>
      rw [he]
      rfl
  | @ok alone _ hstreams =>
      obtain ⟨pos, behind, halike, rfl⟩ := hstreams
      have hprograms := TokenStream.toProgram_lines hp hdepth halike pos
      simp only
      generalize alone.toProgram = program at hprograms
      generalize TokenStream.toProgram _ = program' at hprograms
      cases hprograms with
      | error hrejected =>
          simp only [hrejected.1, hrejected.2]
          exact ofRejected_lines hresolved _ _
      | ok hwhole =>
          rw [hwhole]
          exact ofResolved_lines hresolved _

theorem resolveBody_block (p : Program) : v.resolveBody [.block p] = v.resolveBody p := by
  simp only [resolveBody, resolveStatement, Resolved.pure_bind, List.append_nil]
  exact Resolved.bind_pure _

/-- A program between braces is the same program, unless it is nested too deeply. -/
theorem parse_braced {source : String} (h : (v.parse source).result = .ok list) :
    (v.parse ("\x7b" ++ source ++ "\n\x7d")).result = .ok list ∨
      ∃ e, (v.parse ("\x7b" ++ source ++ "\n\x7d")).result = .error (.source e) ∧
        e.fault = .nestingTooDeep := by
  obtain ⟨stream, p, htokens, hread, hresolved⟩ := v.exists_stream_of_parse_eq_ok h
  obtain ⟨hp, -⟩ := TokenStream.toProgram_sound hread
  obtain ⟨mode, pos, pos', pos'', whole, hwhole, halike⟩ := tokenize_braced htokens
  have hok : (v.resolveBody [.block p]).IsOk := ⟨list, (v.resolveBody_block p).symm ▸ hresolved⟩
  rcases TokenStream.toProgram_or (BodyAt.braced hp mode pos pos' pos'') hok stream.stop with
    hblock | hdeep
  · obtain ⟨p', hp', rfl⟩ := (hblock ▸ halike.toProgram).exists_ok
    left
    rw [v.parse_result_of_ok hwhole hp', resolveBody_block, hresolved]
    rfl
  · obtain ⟨r, hr, hfault, hheard⟩ := hdeep
    obtain ⟨r', hr', hrejected⟩ := (hr ▸ halike.toProgram).exists_error
    have hphrases := resolvePhrases_eq_ok (hrejected.heard ▸ hheard)
    right
    refine ⟨r'.error, ?_, hrejected.error.fault.symm.trans hfault⟩
    simp only [parse, hwhole, hr', Parsed.ofRejected, hphrases]

/-- Parsing is compositional. Behind a program that does not end in a line continuation, the text on
the next line becomes what it becomes alone: its action list stands behind the one of the program,
and its failure is the same, so many lines further down. And a program between braces is the same
program, or nested too deeply. -/
theorem parse_compositional (v : Vocabulary) {source : String} {list : ActionList}
    (h : (v.parse source).result = .ok list) :
    (¬EndsInContinuation source → ∀ behind : String,
      (v.parse (source ++ "\n" ++ behind)).result =
        ((v.parse behind).result.mapError (.below (source.toList.count '\n' + 1))).map
          (list ++ ·)) ∧
    ((v.parse ("\x7b" ++ source ++ "\n\x7d")).result = .ok list ∨
      ∃ e, (v.parse ("\x7b" ++ source ++ "\n\x7d")).result = .error (.source e) ∧
        e.fault = .nestingTooDeep) :=
  ⟨fun hend behind => parse_lines h hend behind, parse_braced h⟩

/-- The stray bracket stands on the third line of the whole, and on the first of its own text. -/
theorem parse_compositional_bracket :
    (parse {} ("[x] Stop # one\n[] \x7b\x7d" ++ "\n" ++ "[x] Stop ]")).result =
      .error (.source ⟨⟨3, 10⟩, .unexpected .action (some (.mark .rightBracket))⟩) := by
  have hfirst : (parse {} "[x] Stop # one\n[] \x7b\x7d").result =
      .ok [.conditional (some [⟨none, .or⟩]) [] [], .conditional none [] []] := by cbv
  have hend : ¬EndsInContinuation "[x] Stop # one\n[] \x7b\x7d" := by
    rintro ⟨tokens, h⟩
    cases h
  have hbehind : (parse {} "[x] Stop ]").result =
      .error (.source ⟨⟨1, 10⟩, .unexpected .action (some (.mark .rightBracket))⟩) := by cbv
  have hwhole := (parse_compositional {} hfirst).1 hend "[x] Stop ]"
  rw [hbehind] at hwhole
  exact hwhole

end Vocabulary

end WindowActions
