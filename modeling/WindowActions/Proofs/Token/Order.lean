import Mathlib.Data.List.Chain
import WindowActions.Token.Scan

/-!
# Tokens in their order

Places move forward with every character, and a token starts where what is left open has started, or
at the character that completes it. So every token starts behind the one in front of it, and the
text stops behind all of them. A place stands for at most one token.
-/

namespace WindowActions

/-- The first place is in front of the second one, line by line. -/
def Position.Before (pos pos' : Position) : Prop :=
  pos.line < pos'.line ∨ pos.line = pos'.line ∧ pos.column < pos'.column

namespace Position

variable {pos pos' pos'' : Position}

theorem not_before_self (pos : Position) : ¬pos.Before pos := by
  unfold Before
  omega

theorem Before.trans (h : pos.Before pos') (h' : pos'.Before pos'') : pos.Before pos'' := by
  unfold Before at *
  omega

instance : Trans Before Before Before := ⟨Before.trans⟩

theorem before_after (pos : Position) (c : Char) : pos.Before (pos.after c) := by
  unfold Before after
  split
  · exact .inl (Nat.lt_succ_self _)
  · exact .inr ⟨rfl, Nat.lt_succ_self _⟩

end Position

/-- The places of the tokens, and the place where the text stops. -/
def TokenStream.places (stream : TokenStream) : List Position :=
  stream.tokens.map (·.pos) ++ [stream.stop]

namespace ScanMode

/-- Where the next token starts at the earliest. -/
def floor (pos : Position) : ScanMode → Position
  | word start _ | text start _ _ | escape start _ _ => start
  | blank | comment | continuation => pos

/-- What is left open has started in front of the place. -/
def StartedBefore (pos : Position) : ScanMode → Prop
  | word start _ | text start _ _ | escape start _ _ => start.Before pos
  | blank | comment | continuation => True

end ScanMode

section Scan

variable {pos last : Position} {mode next : ScanMode} {c : Char} {tokens : List Token}
  {places : List Position}

/-- The places of some tokens, and then any that are in order from the next token on. -/
def InOrder (last : Position) (tokens : List Token) (floor : Position)
    (places : List Position) : Prop :=
  (∀ last' : Position, last'.Before floor → (last' :: places).IsChain Position.Before) →
    (last :: (tokens.map (·.pos) ++ places)).IsChain Position.Before

theorem scanBlank_inOrder (hlast : last.Before pos) (h : scanBlank pos c = .ok (tokens, next)) :
    next.StartedBefore (pos.after c) ∧ InOrder last tokens (next.floor (pos.after c)) places := by
  have hafter := pos.before_after c
  unfold scanBlank at h
  split at h
  next mark hmark =>
    cases h
    exact ⟨trivial, fun hplaces => .cons_cons hlast (hplaces pos hafter)⟩
  next =>
    repeat' split at h
    all_goals cases h
    all_goals first
      | exact ⟨trivial, fun hplaces => hplaces last (hlast.trans hafter)⟩
      | exact ⟨hafter, fun hplaces => hplaces last hlast⟩

theorem scanStep_inOrder (hmode : mode.StartedBefore pos) (hlast : last.Before (mode.floor pos))
    (h : scanStep mode pos c = .ok (tokens, next)) :
    next.StartedBefore (pos.after c) ∧ InOrder last tokens (next.floor (pos.after c)) places := by
  have hafter := pos.before_after c
  cases mode with
  | blank => exact scanBlank_inOrder hlast h
  | word start chars =>
      simp only [scanStep] at h
      split at h
      · cases h
        exact ⟨hmode.trans hafter, fun hplaces => hplaces last hlast⟩
      · cases hblank : scanBlank pos c with
        | error e =>
            rw [hblank] at h
            cases h
        | ok step =>
            rw [hblank] at h
            cases h
            obtain ⟨hnext, hplaces⟩ := scanBlank_inOrder hmode hblank
            exact ⟨hnext, fun h => .cons_cons hlast (hplaces h)⟩
  | comment =>
      simp only [scanStep] at h
      split at h
      · exact scanBlank_inOrder hlast h
      · cases h
        exact ⟨trivial, fun hplaces => hplaces last (hlast.trans hafter)⟩
  | text start close chars =>
      simp only [scanStep] at h
      split at h
      · cases h
        exact ⟨trivial, fun hplaces => .cons_cons hlast (hplaces start (hmode.trans hafter))⟩
      split at h
      all_goals
        cases h
        exact ⟨hmode.trans hafter, fun hplaces => hplaces last hlast⟩
  | escape start close chars =>
      cases h
      exact ⟨hmode.trans hafter, fun hplaces => hplaces last hlast⟩
  | continuation =>
      simp only [scanStep] at h
      repeat' split at h
      all_goals cases h
      all_goals exact ⟨trivial, fun hplaces => hplaces last (hlast.trans hafter)⟩

theorem scan_isChain {cs : List Char} {stream : TokenStream} (hmode : mode.StartedBefore pos)
    (hlast : last.Before (mode.floor pos)) (h : scan mode pos cs = .ok stream) :
    (last :: stream.places).IsChain Position.Before := by
  induction cs generalizing mode pos last stream with
  | nil =>
      rw [scan_nil] at h
      cases mode with
      | text start close chars | escape start close chars => cases h
      | word start chars =>
          cases h
          exact .cons_cons hlast (.cons_cons hmode (.singleton _))
      | blank | comment | continuation =>
          cases h
          exact .cons_cons hlast (.singleton _)
  | cons c cs ih =>
      cases hstep : scanStep mode pos c with
      | error e =>
          rw [scan_cons_of_error hstep] at h
          cases h
      | ok step =>
          obtain ⟨tokens, next⟩ := step
          rw [scan_cons_of_ok hstep] at h
          cases hrest : scan next (pos.after c) cs with
          | error e =>
              rw [hrest] at h
              cases h
          | ok rest =>
              rw [hrest] at h
              cases h
              obtain ⟨hnext, hplaces⟩ := scanStep_inOrder hmode hlast hstep
              rw [TokenStream.places, List.map_append, List.append_assoc]
              exact hplaces fun last' hlast' => ih hnext hlast' hrest

end Scan

/-- Every token starts behind those in front of it, and the text stops behind all of them. -/
theorem tokenize_places {source : String} {stream : TokenStream}
    (h : tokenize source = .ok stream) : stream.places.Pairwise Position.Before := by
  have hmode : ScanMode.blank.StartedBefore .start := trivial
  have hstart : Position.Before ⟨0, 0⟩ (ScanMode.blank.floor .start) := .inl Nat.zero_lt_one
  have hchain := scan_isChain hmode hstart h
  exact (List.pairwise_cons.1 (List.isChain_iff_pairwise.1 hchain)).2

end WindowActions
