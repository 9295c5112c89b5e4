import WindowActions.Proofs.Token.Order
import WindowActions.Proofs.Token.Pieces

/-!
# Where everything in a text stands

`LaidOut` cuts characters into pieces and gives every lexeme the token that starts there. A text
that is laid out becomes its tokens, and one that is not has a fault behind what is laid out of it.
So a token stands exactly where its first character does, the text stops behind its last character,
what is in no token is filler, and an error stands at the character that is wrong or opens the text
that is not closed.
-/

namespace WindowActions

/-- The place behind the characters at the start of a text. Lines are counted at line feeds and
columns in characters, both from one. -/
def Position.behind (chars : List Char) : Position :=
  ⟨chars.count '\n' + 1, (chars.reverse.takeWhile (· != '\n')).length + 1⟩

/-- Behind `before`, the characters are lexemes of these tokens and fillers. They stop where neither
a lexeme nor a filler goes on, and `rest` stands there. -/
inductive LaidOut (rest : List Char) : List Char → List Char → List Token → Prop
  | nil (before : List Char) : LaidOut rest before [] []
  | filler {before piece chars : List Char} {tokens : List Token}
      (hpiece : IsFiller piece (chars ++ rest)) (h : LaidOut rest (before ++ piece) chars tokens) :
      LaidOut rest before (piece ++ chars) tokens
  | lexeme {before piece chars : List Char} {kind : TokenKind} {tokens : List Token}
      (hpiece : IsLexeme kind piece (chars ++ rest))
      (h : LaidOut rest (before ++ piece) chars tokens) :
      LaidOut rest before (piece ++ chars) (⟨kind, .behind before⟩ :: tokens)

/-- Behind what is laid out, the text goes on with what is no piece, and the error stands where the
fault is found. -/
inductive Refused : List Char → SourceError → Prop
  | fault {chars first rest : List Char} {tokens : List Token} {fault : SourceFault}
      (h : LaidOut rest [] chars tokens) (hfault : Offends first rest fault) :
      Refused (chars ++ rest) ⟨.behind (chars ++ first), fault⟩

namespace Position

theorem behind_concat (chars : List Char) (c : Char) :
    behind (chars ++ [c]) = (behind chars).after c := by
  rw [behind, behind, after, List.count_append, List.reverse_append, List.reverse_singleton,
    List.singleton_append, List.takeWhile_cons]
  by_cases hc : c = '\n'
  · rw [if_pos hc, hc]
    rfl
  · have hpass : (c != '\n') = true := bne_iff_ne.2 hc
    rw [if_neg hc, if_pos hpass, List.count_singleton, if_neg (by simpa using hc)]
    rfl

theorem behind_append (before chars : List Char) :
    behind (before ++ chars) = (behind before).afterAll chars := by
  induction chars generalizing before with
  | nil => rw [List.append_nil]; rfl
  | cons c chars ih =>
      rw [List.append_cons, ih, behind_concat, afterAll_cons]

end Position

section Layout

variable {before chars rest : List Char} {tokens : List Token}

theorem LaidOut.scan (h : LaidOut rest before chars tokens) :
    scan .blank (.behind before) (chars ++ rest) =
      (scan .blank (.behind (before ++ chars)) rest).map (TokenStream.prepend tokens) := by
  induction h with
  | nil before => rw [List.nil_append, List.append_nil, map_prepend_nil]
  | filler hpiece _ ih =>
      rw [List.append_assoc, scan_filler hpiece, ← Position.behind_append, ih, List.append_assoc]
  | lexeme hpiece _ ih =>
      rw [List.append_assoc, scan_lexeme hpiece, ← Position.behind_append, ih, List.append_assoc,
        map_prepend_prepend]
      rfl

theorem IsFiller.ne_nil {piece : List Char} (h : IsFiller piece rest) : piece ≠ [] := by
  cases h <;> exact List.cons_ne_nil _ _

theorem IsLexeme.ne_nil {kind : TokenKind} {piece : List Char} (h : IsLexeme kind piece rest) :
    piece ≠ [] := by
  cases h with
  | word h => exact h.1
  | mark | text => exact List.cons_ne_nil _ _

theorem length_lt_append {piece : List Char} (h : piece ≠ []) (more : List Char) :
    more.length < (piece ++ more).length := by
  rw [List.length_append]
  exact Nat.lt_add_of_pos_left (List.length_pos_of_ne_nil h)

/-- Every text is laid out up to its end or up to a fault. -/
theorem exists_laidOut (before chars : List Char) :
    ∃ laid rest tokens, chars = laid ++ rest ∧ LaidOut rest before laid tokens ∧
      (rest = [] ∨ ∃ first fault, Offends first rest fault) := by
  match chars with
  | [] => exact ⟨[], [], [], rfl, .nil before, .inl rfl⟩
  | c :: cs =>
      -- No piece is empty, so what stands behind the first one is shorter.
      have hstart := start_cons c cs
      generalize hchars : c :: cs = chars at hstart
      cases hstart with
      | @filler piece more hpiece =>
          have hshorter : more.length < (c :: cs).length :=
            hchars ▸ length_lt_append hpiece.ne_nil more
          obtain ⟨laid, rest, tokens, rfl, hlaid, hrest⟩ := exists_laidOut (before ++ piece) more
          exact ⟨piece ++ laid, rest, tokens, (List.append_assoc _ _ _).symm, .filler hpiece hlaid,
            hrest⟩
      | @lexeme kind piece more hpiece =>
          have hshorter : more.length < (c :: cs).length :=
            hchars ▸ length_lt_append hpiece.ne_nil more
          obtain ⟨laid, rest, tokens, rfl, hlaid, hrest⟩ := exists_laidOut (before ++ piece) more
          exact ⟨piece ++ laid, rest, _, (List.append_assoc _ _ _).symm, .lexeme hpiece hlaid,
            hrest⟩
      | @fault first _ fault hoffends =>
          exact ⟨[], chars, [], rfl, .nil before, .inr ⟨first, fault, hoffends⟩⟩
termination_by chars.length
decreasing_by all_goals exact hshorter

end Layout

theorem tokenize_of_laidOut {source : String} {tokens : List Token}
    (h : LaidOut [] [] source.toList tokens) :
    tokenize source = .ok ⟨tokens, .behind source.toList⟩ := by
  have hscan := h.scan
  rw [List.append_nil, List.nil_append, scan_nil] at hscan
  refine hscan.trans ?_
  simp only [scanEnd, Except.map, TokenStream.prepend, List.append_nil]

theorem tokenize_of_refused {source : String} {e : SourceError} (h : Refused source.toList e) :
    tokenize source = .error e := by
  rw [tokenize]
  generalize source.toList = chars at h
  cases h with
  | fault h hfault =>
      refine h.scan.trans ?_
      rw [scan_offends hfault, ← Position.behind_append]
      rfl

/-- The tokens of a text stand where their first characters do, one behind the other, and everything
else in it is filler. A text without tokens is refused at the place of its first fault. -/
theorem tokenize_exact (source : String) :
    match tokenize source with
    | .ok stream =>
      LaidOut [] [] source.toList stream.tokens ∧ stream.stop = .behind source.toList ∧
        stream.places.Pairwise Position.Before
    | .error e => Refused source.toList e := by
  obtain ⟨laid, rest, tokens, hchars, hlaid, hend⟩ := exists_laidOut [] source.toList
  rcases hend with rfl | ⟨first, fault, hoffends⟩
  · rw [List.append_nil] at hchars
    rw [← hchars] at hlaid
    have hok := tokenize_of_laidOut hlaid
    rw [hok]
    exact ⟨hlaid, rfl, tokenize_places hok⟩
  · have hrefused : Refused source.toList ⟨.behind (laid ++ first), fault⟩ :=
      hchars ▸ .fault hlaid hoffends
    rw [tokenize_of_refused hrefused]
    exact hrefused

end WindowActions
