import WindowActions.Proofs.Program.Branches
import WindowActions.Proofs.Program.Deep
import WindowActions.Proofs.Program.Meaning
import WindowActions.Proofs.Program.Prefixes
import WindowActions.Proofs.Token.Order

/-!
# Where programs are rejected

A program that is rejected because something else is wanted is rejected at the first token with
which no program of the grammar can go on. In front of it stands the beginning of a program, so the
token is not rejected too early. And no program goes on with it, so none is rejected too late.
-/

namespace WindowActions

/-- The place is that of a token or of the end, and this is what stands in front of it. -/
inductive TokenStream.StandsAt (stream : TokenStream) (pos : Position) :
    List Token → Option Token → Prop
  | token {before behind : List Token} {t : Token} (split : stream.tokens = before ++ t :: behind)
      (place : t.pos = pos) : StandsAt stream pos before (some t)
  | stop (place : stream.stop = pos) : StandsAt stream pos stream.tokens none

/-- The tokens are the beginning of a program, by any reading of the grammar and however deeply it
is nested. -/
def BeginsProgram (tokens : List Token) : Prop :=
  ∃ more p, BodyAt (fun _ => True) p (tokens ++ more) []

/-- A program goes on with the token behind those in front of it, or ends there. -/
def GoesOnWith (before : List Token) : Option Token → Prop
  | some t => BeginsProgram (before ++ [t])
  | none => ∃ p, BodyAt (fun _ => True) p before []

theorem goesOnWith_head? {before behind : List Token} (h : GoesOnWith before behind.head?) :
    ∃ behind' p, behind.head? = behind'.head? ∧
      BodyAt (fun _ => True) p (before ++ behind') [] := by
  cases behind with
  | nil =>
      obtain ⟨p, hp⟩ := h
      exact ⟨[], p, rfl, (List.append_nil before).symm ▸ hp⟩
  | cons t behind =>
      obtain ⟨more, p, hp⟩ := h
      rw [List.append_assoc] at hp
      exact ⟨t :: more, p, rfl, hp⟩

namespace TokenStream

theorem nextPosition_mem_places (stop : Position) (tokens : List Token) :
    nextPosition stop tokens ∈ places ⟨tokens, stop⟩ := by
  cases tokens with
  | nil => exact List.mem_singleton_self stop
  | cons t tokens => exact List.mem_cons_self

theorem standsAt_iff {stream : TokenStream} {pos : Position} {before : List Token}
    {t : Option Token} : stream.StandsAt pos before t ↔
      ∃ behind, stream.tokens = before ++ behind ∧ nextPosition stream.stop behind = pos ∧
        behind.head? = t := by
  constructor
  · rintro (⟨split, place⟩ | ⟨place⟩)
    · exact ⟨_, split, place, rfl⟩
    · exact ⟨[], (List.append_nil _).symm, place, rfl⟩
  · rintro ⟨behind, split, place, rfl⟩
    cases behind with
    | nil =>
        rw [List.append_nil] at split
        exact split ▸ .stop place
    | cons t behind => exact .token split place

theorem nextPosition_ne {stop : Position} {before between behind : List Token} {t : Token}
    (h : (places ⟨before ++ (t :: between ++ behind), stop⟩).Pairwise Position.Before) :
    nextPosition stop behind ≠ t.pos := by
  have hmem := nextPosition_mem_places stop behind
  simp only [places, List.map_append, List.map_cons, List.append_assoc, List.cons_append] at h hmem
  have hbehind := (List.pairwise_append.1 h).2.1
  have hlt := (List.pairwise_cons.1 hbehind).1 _ (List.mem_append_right _ hmem)
  intro heq
  exact Position.not_before_self _ (heq ▸ hlt)

/-- At most one token starts at a place. -/
theorem StandsAt.unique {stream : TokenStream} (hplaces : stream.places.Pairwise Position.Before)
    {pos : Position} {before before' : List Token} {t t' : Option Token}
    (h : stream.StandsAt pos before t) (h' : stream.StandsAt pos before' t') :
    before' = before ∧ t' = t := by
  obtain ⟨tokens, stop⟩ := stream
  obtain ⟨behind, rfl, rfl, rfl⟩ := standsAt_iff.1 h
  obtain ⟨behind', hsplit, hplace, rfl⟩ := standsAt_iff.1 h'
  rcases List.append_eq_append_iff.1 hsplit with ⟨between, rfl, rfl⟩ | ⟨between, rfl, rfl⟩
  · cases between with
    | nil => exact ⟨List.append_nil _, rfl⟩
    | cons t between =>
        exact absurd hplace (nextPosition_ne hplaces)
  · cases between with
    | nil => exact ⟨(List.append_nil _).symm, rfl⟩
    | cons t between =>
        rw [List.append_assoc] at hplaces
        exact absurd hplace.symm (nextPosition_ne hplaces)

/-- What is a program is read, or is nested too deeply. -/
theorem toProgram_reads {p : Program} {tokens : List Token} {fits : Statement → Prop}
    (h : BodyAt fits p tokens []) (stop : Position) {e : SourceError}
    (he : Fails (TokenStream.mk tokens stop).toProgram e) : e.fault = .nestingTooDeep := by
  obtain ⟨q, hq⟩ := h.settle
  -- Without any actions and filters, looking up what has been read misuses no value.
  have hok : (Vocabulary.resolveBody {} q).IsOk := by
    have hmeans := Vocabulary.resolveBody_means {} q
    cases hmisuse : Vocabulary.firstMisuse {} q with
    | none => exact ⟨_, hmisuse ▸ hmeans⟩
    | some m =>
        obtain ⟨definition, hmem, -⟩ := Vocabulary.misuses_of_findSome? hmisuse
        cases hmem
  rcases toProgram_or hq hok stop with hread | ⟨r, hr, hfault, -⟩
  · rw [hread] at he
    exact absurd he not_fails_ok
  · rw [he.unique ⟨r.heard, hr⟩]
    exact hfault

/-- Tokens are rejected at the first one with which no program goes on. -/
theorem toProgram_fails {stream : TokenStream} {pos : Position} {wanted : Expectation}
    {found : Option TokenKind} (h : Fails stream.toProgram ⟨pos, .unexpected wanted found⟩) :
    ∃ before t, stream.StandsAt pos before t ∧ t.map (·.kind) = found ∧ BeginsProgram before ∧
      ¬GoesOnWith before t := by
  have hread := fails_map.1 h
  have hone : ∀ tokens, Decides true stream.stop (readStatement stream.stop maxNesting)
      (StatementAt fun _ => True) tokens := readStatement_decides (fun _ => trivial) _ _
  cases readList_decides hone false stream.tokens with
  | accepts p front rest split there again =>
      rw [split] at hread
      exact absurd hread (again rest (.refl _ rest)).not_fails
  | tooDeep e fault fails =>
      cases hread.unique fails
      cases fault
  | rejects wanted' before behind split begins start again =>
      obtain ⟨p, more, _, hp, ⟨⟩⟩ := begins
      have herror := (split ▸ hread).unique (again behind rfl)
      simp only [mismatch, SourceError.mk.injEq, SourceFault.unexpected.injEq] at herror
      obtain ⟨rfl, rfl, rfl⟩ := herror
      have hstands := standsAt_iff.2 ⟨behind, split, rfl, rfl⟩
      refine ⟨before, behind.head?, hstands, rfl, ⟨more, p, hp⟩, ?_⟩
      intro hgoes
      obtain ⟨behind', q, hhead, hq⟩ := goesOnWith_head? hgoes
      cases toProgram_reads hq stream.stop (fails_map.2 (again behind' hhead))

end TokenStream

namespace Vocabulary

theorem fails_of_parse {v : Vocabulary} {source : String} {stream : TokenStream} {e : SourceError}
    (htokens : tokenize source = .ok stream) (h : (v.parse source).result = .error (.source e)) :
    Fails stream.toProgram e := by
  simp only [parse, htokens] at h
  cases hread : stream.toProgram with
  | ok p =>
      rw [hread] at h
      simp only [Parsed.ofResolved] at h
      cases hresult : (v.resolveBody p).result <;> rw [hresult] at h <;> cases h
  | error r =>
      rw [hread] at h
      simp only [Parsed.ofRejected] at h
      cases hresult : (v.resolvePhrases r.heard).result <;> rw [hresult] at h <;> cases h
      exact ⟨r.heard, rfl⟩

/-- Errors have the correct prefix property. Where a program is rejected because something else is
wanted, there is exactly one token, or the end. The tokens in front of it are the beginning of a
program of the grammar, and no program goes on with it, or ends there. -/
theorem parse_correct_prefix (v : Vocabulary) {source : String} {stream : TokenStream}
    {pos : Position} {wanted : Expectation} {found : Option TokenKind}
    (htokens : tokenize source = .ok stream)
    (h : (v.parse source).result = .error (.source ⟨pos, .unexpected wanted found⟩)) :
    ∃ before t, stream.StandsAt pos before t ∧
      (∀ before' t', stream.StandsAt pos before' t' → before' = before ∧ t' = t) ∧
      t.map (·.kind) = found ∧ BeginsProgram before ∧ ¬GoesOnWith before t := by
  obtain ⟨before, t, hstands, hfound, hbegins, hgoes⟩ :=
    TokenStream.toProgram_fails (fails_of_parse htokens h)
  exact ⟨before, t, hstands, fun _ _ => hstands.unique (tokenize_places htokens), hfound, hbegins,
    hgoes⟩

/-- A second word between brackets is rejected, and the text could have gone on in front of it. -/
theorem parse_correct_prefix_bracket :
    let opened : List Token := [⟨.mark .leftBracket, ⟨1, 1⟩⟩, ⟨.word "a", ⟨1, 2⟩⟩]
    let second : Token := ⟨.word "b", ⟨1, 4⟩⟩
    let behind : List Token := [⟨.mark .rightBracket, ⟨1, 5⟩⟩, ⟨.word "C", ⟨1, 7⟩⟩]
    tokenize "[a b] C" = .ok ⟨opened ++ second :: behind, ⟨1, 8⟩⟩ ∧
      (parse {} "[a b] C").result =
        .error (.source ⟨⟨1, 4⟩, .unexpected .rightBracket (some (.word "b"))⟩) ∧
      BeginsProgram opened ∧ ¬BeginsProgram (opened ++ [second]) := by
  intro opened second behind
  have htokens : tokenize "[a b] C" = .ok ⟨opened ++ second :: behind, ⟨1, 8⟩⟩ := rfl
  have hrejected : (parse {} "[a b] C").result =
      .error (.source ⟨⟨1, 4⟩, .unexpected .rightBracket (some (.word "b"))⟩) := by
    simp only [parse, htokens]
    cbv
  obtain ⟨before, t, -, hunique, -, hbegins, hgoes⟩ :=
    parse_correct_prefix {} htokens hrejected
  obtain ⟨rfl, rfl⟩ := hunique opened (some second) (.token rfl rfl)
  exact ⟨htokens, hrejected, hbegins, hgoes⟩

end Vocabulary

end WindowActions
