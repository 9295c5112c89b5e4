import WindowActions.Program.Read

/-!
# Reading along a cursor

This is the parser as a machine: all tokens stay where they are, a cursor moves along them, and a
counter goes up and down with the nesting. Loops and recursion have no measure here. A function that
never comes to an end has the result `none`, and that none of them does is a theorem, as is that
they read what the readers of lists of tokens read.

The end of the program is a token in its own right for a cursor. It is the last one, and no cursor
gets behind it. A `Trail` keeps all cursors that have been passed, so that something can be said of
the time between two of them.
-/

namespace WindowActions

/-- A place among the tokens, and so many levels of blocks, branches and list operands around it. -/
structure Cursor where
  index : Nat
  depth : Nat
deriving DecidableEq, Repr

/-- The cursor of a parser, and all cursors before, the latest one first. -/
structure Trail where
  now : Cursor
  passed : List Cursor

/-- The trail that begins with a cursor. -/
def Trail.from (c : Cursor) : Trail := ⟨c, []⟩

def Trail.move (t : Trail) (c : Cursor) : Trail := ⟨c, t.now :: t.passed⟩

/-- The parser may fail at any time, and then stays where it is. -/
abbrev CursorReader (α : Type) := ExceptT SourceError (StateT Trail Option) α

namespace CursorReader

/-- The outcome of a reader and the trail behind it, if it comes to an end. -/
def go {α : Type} (reader : CursorReader α) (t : Trail) :
    Option (Except SourceError α × Trail) :=
  StateT.run (ExceptT.run reader) t

section Parser

variable (stream : TokenStream)

/-- The kind of the next token, and `none` for the end of the program. -/
def peek : CursorReader (Option TokenKind) := do
  return stream.tokens[(← get).now.index]?.map (·.kind)

def peekBehind : CursorReader (Option TokenKind) := do
  return stream.tokens[(← get).now.index + 1]?.map (·.kind)

/-- Goes to the next token, unless the program ends here. -/
def bump : CursorReader Unit := do
  let t ← get
  if t.now.index < stream.tokens.length then
    set (t.move ⟨t.now.index + 1, t.now.depth⟩)

/-- Rejects the next token. -/
def reject {α : Type} (fault : Option TokenKind → SourceFault) : CursorReader α := do
  let token := stream.tokens[(← get).now.index]?
  throw ⟨(token.map (·.pos)).getD stream.stop, fault (token.map (·.kind))⟩

def enter : CursorReader Unit := do
  let t ← get
  if maxNesting ≤ t.now.depth then reject stream fun _ => .nestingTooDeep
  else set (t.move ⟨t.now.index, t.now.depth + 1⟩)

def leave : StateT Trail Option Unit :=
  modify fun t => t.move ⟨t.now.index, t.now.depth - 1⟩

/-- Reads something one level further in. The level is left also after a failure. -/
abbrev nested {α : Type} (inside : CursorReader α) : CursorReader α := do
  enter stream
  show StateT Trail Option (Except SourceError α) from do
    let outcome ← ExceptT.run inside
    leave
    return outcome

def word : CursorReader String := do
  match ← peek stream with
  | some (.word chars) =>
    bump stream
    return chars
  | _ => reject stream (.unexpected .name)

def expect (m : Mark) (wanted : Expectation) : CursorReader Unit := do
  if (← peek stream) = some (.mark m) then bump stream
  else reject stream (.unexpected wanted)

/-- A test that is complete, and whether it is joined to another one. -/
def joined (key : String) (operand : Option Operand) : CursorReader (Test × Bool) := do
  match ← peek stream with
  | some (.mark .comma) =>
    bump stream
    return (⟨key, operand, .and⟩, true)
  | some (.mark .pipe) =>
    bump stream
    return (⟨key, operand, .or⟩, true)
  | _ => return (⟨key, operand, .or⟩, false)

end Parser

end CursorReader

namespace TokenStream

open CursorReader

mutual

/-- Reads a list up to its end, one turn after the other. -/
def list (stream : TokenStream) (isNested : Bool) : CursorReader (List Statement) := do
  match ← stream |>.listTurn isNested with
  | none => return []
  | some statements => return statements ++ (← stream |>.list isNested)
partial_fixpoint

/-- One turn of the loop of a list. It reads at most one statement; `none` ends the loop. -/
def listTurn (stream : TokenStream) (isNested : Bool) :
    CursorReader (Option (List Statement)) := do
  match ← peek stream with
  | none =>
    if isNested then reject stream (.unexpected .rightBrace)
    else return none
  | some (.mark .rightBrace) =>
    if isNested then
      bump stream
      return none
    else return some [← stream |>.action]
  | some (.mark .newline) | some (.mark .semicolon) =>
    bump stream
    return some []
  | some _ => return some [← stream |>.action]
partial_fixpoint

def action (stream : TokenStream) : CursorReader Statement := do
  match ← peek stream with
  | some (.mark .leftBracket) => stream |>.filter
  | some (.mark .leftBrace) =>
    bump stream
    return .block (← nested stream (stream |>.list true))
  | some (.word _) =>
    let name ← word stream
    return .action name (← stream |>.options)
  | _ => reject stream (.unexpected .action)
partial_fixpoint

def options (stream : TokenStream) : CursorReader (List (String × Operand)) := do
  match ← stream |>.optionsTurn with
  | none => return []
  | some option => return option :: (← stream |>.options)
partial_fixpoint

/-- One turn of the loop of options. It reads one option; `none` ends the loop. -/
def optionsTurn (stream : TokenStream) : CursorReader (Option (String × Operand)) := do
  let next ← peek stream
  let behind ← peekBehind stream
  match next, behind with
  | some (.word _), some (.mark .colon) =>
    let name ← word stream
    bump stream
    return some (name, ← stream |>.value)
  | _, _ => return none
partial_fixpoint

/-- Reads a conditional. Its opening bracket is there, so what else is wanted never shows. -/
def filter (stream : TokenStream) : CursorReader Statement := do
  expect stream .leftBracket .action
  let test ← stream |>.chain
  expect stream .rightBracket .rightBracket
  let accepted ← nested stream (stream |>.action)
  return .conditional test accepted (← stream |>.otherwise)
partial_fixpoint

def chain (stream : TokenStream) : CursorReader (Option (List Test)) := do
  match ← peek stream with
  | some (.mark .rightBracket) => return none
  | _ => return some (← stream |>.tests)
partial_fixpoint

def otherwise (stream : TokenStream) : CursorReader (Option Statement) := do
  match ← peek stream with
  | some (.mark .pipe) =>
    bump stream
    return some (← nested stream (stream |>.action))
  | _ => return none
partial_fixpoint

def tests (stream : TokenStream) : CursorReader (List Test) := do
  let (test, goesOn) ← stream |>.testsTurn
  if goesOn then return test :: (← stream |>.tests)
  else return [test]
partial_fixpoint

/-- One turn of the loop of tests. It reads one test, and tells whether there is another one. -/
def testsTurn (stream : TokenStream) : CursorReader (Test × Bool) := do
  let key ← word stream
  joined stream key (← stream |>.testOperand)
partial_fixpoint

def testOperand (stream : TokenStream) : CursorReader (Option Operand) := do
  match ← peek stream with
  | some (.mark .equals) =>
    bump stream
    return some (← stream |>.value)
  | _ => return none
partial_fixpoint

def value (stream : TokenStream) : CursorReader Operand := do
  match ← peek stream with
  | some (.word chars) | some (.text chars) =>
    bump stream
    return .text chars
  | some (.mark .leftBrace) =>
    bump stream
    return .list (← nested stream (stream |>.list true))
  | _ => reject stream (.unexpected .value)
partial_fixpoint

end

end TokenStream

/-- The trail behind the next token. -/
def Trail.next (t : Trail) : Trail := t.move ⟨t.now.index + 1, t.now.depth⟩

/-- The trail one level further in. -/
def Trail.inner (t : Trail) : Trail := t.move ⟨t.now.index, t.now.depth + 1⟩

/-- The trail one level further out. -/
def Trail.outer (t : Trail) : Trail := t.move ⟨t.now.index, t.now.depth - 1⟩

section Leads

variable (stream : TokenStream)

/-- The cursor stands in front of these tokens, or at the end if there are none. -/
structure Stands (t : Trail) (tokens : List Token) : Prop where
  drop : stream.tokens.drop t.now.index = tokens
  within : t.now.index ≤ stream.tokens.length

/-- A cursor that can be reached: not further back, not outside of the tokens, not further out and
not nested too deeply. -/
structure Cursor.Reaches (start c : Cursor) : Prop where
  onward : start.index ≤ c.index
  within : c.index ≤ stream.tokens.length
  inward : start.depth ≤ c.depth
  limited : c.depth ≤ maxNesting

/-- The cursor goes from `t` by way of `between` to `t'`, where it is on its old level again. It
never goes back. -/
structure Leads (t t' : Trail) (between : List Cursor) : Prop where
  passed : t'.passed = between ++ t.passed
  depth : t'.now.depth = t.now.depth
  reaches : ∀ c ∈ t'.now :: between, t.now.Reaches stream c
  ordered : (t'.now :: between).Pairwise fun later earlier => earlier.index ≤ later.index

end Leads

section Stands

variable {stream : TokenStream} {t : Trail} {token : Token} {rest tokens : List Token}

theorem Stands.getElem? (h : Stands stream t tokens) (i : Nat) :
    stream.tokens[t.now.index + i]? = tokens[i]? := by
  rw [← h.drop, List.getElem?_drop]

theorem Stands.lt (h : Stands stream t (token :: rest)) :
    t.now.index < stream.tokens.length := by
  have hlength := congrArg List.length h.drop
  rw [List.length_drop, List.length_cons] at hlength
  omega

theorem Stands.next (h : Stands stream t (token :: rest)) : Stands stream t.next rest := by
  refine ⟨?_, h.lt⟩
  show stream.tokens.drop (t.now.index + 1) = rest
  rw [← List.drop_drop, h.drop, List.drop_one, List.tail_cons]

theorem Stands.length (h : Stands stream t tokens) :
    tokens.length = stream.tokens.length - t.now.index := by
  rw [← h.drop, List.length_drop]

end Stands

section Leads

variable {stream : TokenStream} {t t' t'' : Trail} {between between' : List Cursor}
  {token : Token} {rest tokens : List Token}

theorem Cursor.Reaches.trans {start middle c : Cursor} (h : start.Reaches stream middle)
    (h' : middle.Reaches stream c) : start.Reaches stream c :=
  ⟨Nat.le_trans h.onward h'.onward, h'.within, Nat.le_trans h.inward h'.inward, h'.limited⟩

theorem Cursor.Reaches.refl (h : Stands stream t tokens) (hdepth : t.now.depth ≤ maxNesting) :
    t.now.Reaches stream t.now :=
  ⟨Nat.le_refl _, h.within, Nat.le_refl _, hdepth⟩

theorem Leads.refl (h : Stands stream t tokens) (hdepth : t.now.depth ≤ maxNesting) :
    Leads stream t t [] where
  passed := rfl
  depth := rfl
  reaches := List.forall_mem_singleton.2 (.refl h hdepth)
  ordered := List.pairwise_singleton _ _

theorem Leads.trans (h : Leads stream t t' between) (h' : Leads stream t' t'' between') :
    Leads stream t t'' (between' ++ between) where
  passed := by rw [h'.passed, h.passed, List.append_assoc]
  depth := h'.depth.trans h.depth
  reaches := by
    rw [← List.cons_append, List.forall_mem_append]
    exact ⟨fun c hc => (h.reaches _ List.mem_cons_self).trans (h'.reaches c hc),
      fun c hc => h.reaches c (List.mem_cons_of_mem _ hc)⟩
  ordered := by
    rw [← List.cons_append, List.pairwise_append]
    refine ⟨h'.ordered, h.ordered.of_cons, fun c hc c' hc' => ?_⟩
    exact Nat.le_trans (List.rel_of_pairwise_cons h.ordered hc') (h'.reaches c hc).onward

theorem Leads.next (h : Stands stream t (token :: rest)) (hdepth : t.now.depth ≤ maxNesting) :
    Leads stream t t.next [t.now] where
  passed := rfl
  depth := rfl
  reaches := List.forall_mem_cons.2
    ⟨⟨Nat.le_succ _, h.lt, Nat.le_refl _, hdepth⟩, List.forall_mem_singleton.2 (.refl h hdepth)⟩
  ordered := List.pairwise_pair.2 (Nat.le_succ _)

/-- What happens one level further in happens between two cursors on the same level. -/
theorem Leads.nested (h : Leads stream t.inner t' between) :
    Leads stream t t'.outer (t'.now :: (between ++ [t.now])) := by
  have hend := h.reaches _ List.mem_cons_self
  have hdepth : t'.now.depth = t.now.depth + 1 := h.depth
  have hlimit : t.now.depth + 1 ≤ maxNesting := hdepth ▸ hend.limited
  have hindex : t.now.index ≤ t'.now.index := hend.onward
  have hinner : t.now.Reaches stream t.inner.now :=
    ⟨Nat.le_refl _, Nat.le_trans hindex hend.within, Nat.le_succ _, hlimit⟩
  have houter : t'.outer.now = ⟨t'.now.index, t.now.depth⟩ := by
    simp only [Trail.outer, Trail.move, hdepth, Nat.add_sub_cancel]
  have hstart : ∀ c ∈ [t.now], t.now.Reaches stream c := List.forall_mem_singleton.2
    ⟨Nat.le_refl _, hinner.within, Nat.le_refl _, Nat.le_of_succ_le hlimit⟩
  have hinside : ∀ c ∈ t'.now :: (between ++ [t.now]), t.now.Reaches stream c := by
    rw [← List.cons_append, List.forall_mem_append]
    exact ⟨fun c hc => hinner.trans (h.reaches c hc), hstart⟩
  have hordered : (t'.now :: (between ++ [t.now])).Pairwise
      fun later earlier => earlier.index ≤ later.index := by
    rw [← List.cons_append, List.pairwise_append]
    refine ⟨h.ordered, List.pairwise_singleton _ _, fun c hc => List.forall_mem_singleton.2 ?_⟩
    exact (h.reaches c hc).onward
  refine ⟨?_, by rw [houter], ?_, ?_⟩
  · show t'.now :: t'.passed = _
    rw [h.passed, List.cons_append, List.append_assoc]
    rfl
  · rw [houter]
    exact List.forall_mem_cons.2
      ⟨⟨hindex, hend.within, Nat.le_refl _, Nat.le_of_succ_le hlimit⟩, hinside⟩
  · rw [houter]
    refine List.pairwise_cons.2 ⟨?_, hordered⟩
    exact List.forall_mem_cons.2
      ⟨Nat.le_refl _, fun _ hc => List.rel_of_pairwise_cons hordered hc⟩

end Leads

namespace CursorReader

section Go

variable {α β : Type} {stream : TokenStream} {t : Trail} {token : Token} {tokens rest : List Token}

theorem go_bind (reader : CursorReader α) (f : α → CursorReader β) :
    (reader >>= f).go t =
      match reader.go t with
      | none => none
      | some (.ok a, t') => (f a).go t'
      | some (.error e, t') => some (.error e, t') := by
  show (StateT.run (ExceptT.run reader) t).bind _ = _
  unfold go
  cases StateT.run (ExceptT.run reader) t with
  | none => rfl
  | some outcome =>
      obtain ⟨result, t'⟩ := outcome
      cases result <;> rfl

theorem go_get_bind (f : Trail → CursorReader β) : (get >>= f : CursorReader β).go t = (f t).go t :=
  rfl

theorem go_peek_bind (h : Stands stream t tokens) (f : Option TokenKind → CursorReader β) :
    (peek stream >>= f).go t = (f (tokens.head?.map (·.kind))).go t := by
  rw [List.head?_eq_getElem?, ← h.getElem? 0]
  rfl

theorem go_peekBehind_bind (h : Stands stream t tokens) (f : Option TokenKind → CursorReader β) :
    (peekBehind stream >>= f).go t = (f (tokens.tail.head?.map (·.kind))).go t := by
  rw [List.head?_tail, ← h.getElem? 1]
  rfl

theorem go_bump (h : Stands stream t (token :: rest)) :
    (bump stream).go t = some (.ok (), t.next) := by
  rw [bump, go_get_bind, if_pos h.lt]
  rfl

theorem go_bump_bind (h : Stands stream t (token :: rest)) (f : Unit → CursorReader β) :
    (bump stream >>= f).go t = (f ()).go t.next := by
  rw [go_bind, go_bump h]

theorem go_reject (h : Stands stream t tokens) (fault : Option TokenKind → SourceFault) :
    (reject stream fault : CursorReader α).go t =
      some (.error ⟨nextPosition stream.stop tokens, fault (tokens.head?.map (·.kind))⟩, t) := by
  have hhead : stream.tokens[t.now.index]? = tokens.head? :=
    (h.getElem? 0).trans List.head?_eq_getElem?.symm
  show some (Except.error _, t) = _
  rw [hhead]
  cases tokens <;> rfl

theorem go_nested_of_lt (h : t.now.depth < maxNesting) (reader : CursorReader α) :
    (nested stream reader).go t =
      (reader.go t.inner).map fun outcome => (outcome.1, outcome.2.outer) := by
  have henter : (enter stream).go t = some (.ok (), t.inner) := by
    rw [enter, go_get_bind, if_neg (Nat.not_le.2 h)]
    rfl
  rw [nested, go_bind, henter]
  show (StateT.run (ExceptT.run reader) t.inner).bind _ = _
  unfold go
  cases StateT.run (ExceptT.run reader) t.inner <;> rfl

theorem go_nested_of_le (ht : Stands stream t tokens) (h : maxNesting ≤ t.now.depth)
    (reader : CursorReader α) :
    (nested stream reader).go t =
      some (.error ⟨nextPosition stream.stop tokens, .nestingTooDeep⟩, t) := by
  have henter : (enter stream).go t =
      some (.error ⟨nextPosition stream.stop tokens, .nestingTooDeep⟩, t) := by
    rw [enter, go_get_bind, if_pos h, go_reject ht]
  rw [nested, go_bind, henter]

end Go

end CursorReader

end WindowActions
