import WindowActions.Proofs.Session.Grammar

/-!
# The session and the keyboard

The session is the engine's and the keyboard is the seat's, and no operation sees both. They stay
in step nevertheless: the signals in the journal tell what becomes of the keyboard of a seat
without devices, and every course takes it where it takes the session.

A run of a list also tells where it stopped. If a session has begun, then the last signal is the
run of its action. Otherwise the session is untouched and nothing interactive was reached, or
there is none.
-/

namespace WindowActions

/-- Whether the keyboard is grabbed after a signal, given whether it was before. -/
def Signal.keyboard (held : Bool) : Signal → Bool
  | grabbed _ granted => granted || held
  | released _ => false
  | _ => held

theorem HeadlessSeat.grabbed_grab (seat : HeadlessSeat) :
    (Seat.grab seat).2.grabbed = ((Seat.grab seat).1 || seat.grabbed) := by
  by_cases h : (seat.denyGrabs || seat.grabbed) = true
  · simp [Seat.grab, h]
  · simp [Seat.grab, h]

theorem Signal.grabbed_effect {world : World HeadlessSeat} {signal : Signal}
    (h : signal.isGiven world = true) :
    (signal.effect world).1.grabbed = signal.keyboard world.1.grabbed := by
  cases signal with
  | grabbed action granted =>
      rw [isGiven, beq_iff_eq] at h
      rw [effect, keyboard, HeadlessSeat.grabbed_grab, h]
  | _ => rfl

/-- The signals tell whether the keyboard of a seat without devices is grabbed. -/
theorem grabbed_replay {signals : List Signal} {world world' : World HeadlessSeat}
    (h : replay? signals world = some world') :
    world'.1.grabbed = signals.foldl Signal.keyboard world.1.grabbed := by
  induction signals generalizing world with
  | nil =>
      rw [replay?_nil, Option.some.injEq] at h
      rw [List.foldl_nil, h]
  | cons signal signals ih =>
      rw [replay?_cons] at h
      by_cases hgiven : signal.isGiven world = true
      · rw [if_pos hgiven] at h
        rw [ih h, List.foldl_cons, Signal.grabbed_effect hgiven]
      · rw [if_neg hgiven] at h
        cases h

theorem keyboard_abortSignals (session : Option Session) :
    (abortSignals session).foldl Signal.keyboard session.isSome = false := by
  cases session <;> rfl

theorem Turn.keyboard {before after : Option Session} {started : Bool} {new : List Signal}
    {action : Action} {set : Option ClientSet} {data : ActionData}
    (h : Turn action set data before started new after) :
    new.foldl Signal.keyboard before.isSome = after.isSome := by
  cases h with
  | aside | continued | finished => rfl
  | declined | refused | opened | fruitless =>
      rw [List.foldl_append, keyboard_abortSignals]
      rfl

theorem Passage.keyboard {before after : Option Session} {started : Bool} {new : List Signal}
    (h : Passage before started new after) :
    new.foldl Signal.keyboard before.isSome = after.isSome := by
  induction h with
  | nil => rfl
  | tested isMatch branch ih => exact ih
  | turn ht => exact ht.keyboard
  | next entry entries ih ih' => rw [List.foldl_append, ih, ih']

theorem Course.keyboard {before after : Option Session} {new : List Signal}
    (h : Course before new after) : new.foldl Signal.keyboard before.isSome = after.isSome := by
  cases h with
  | run passage => exact passage.keyboard
  | unheard => rfl
  | resumed resume => rfl
  | stopped stop => rfl
  | aborted => exact keyboard_abortSignals before

/-- A session begins with the run of its action, and that is the last that happens. -/
def BegunLast (signals : List Signal) (after : Option Session) : Prop :=
  ∃ session set data earlier, after = some session ∧
    signals = earlier ++ [.ran session.action set data true]

theorem BegunLast.append {signals : List Signal} {after : Option Session}
    (h : BegunLast signals after) (earlier : List Signal) :
    BegunLast (earlier ++ signals) after := by
  obtain ⟨session, set, data, earlier', hafter, hsignals⟩ := h
  refine ⟨session, set, data, earlier ++ earlier', hafter, ?_⟩
  rw [hsignals, List.append_assoc]

theorem Turn.begun {before after : Option Session} {started : Bool} {new : List Signal}
    {action : Action} {set : Option ClientSet} {data : ActionData}
    (h : Turn action set data before started new after) (hstarted : started = true) :
    BegunLast new after := by
  cases h with
  | continued => exact ⟨_, _, _, [], rfl, rfl⟩
  | opened =>
      have hrun : BegunLast [.ran action set data true] (some ⟨action, data.state⟩) :=
        ⟨_, _, _, [], rfl, rfl⟩
      exact (hrun.append [.asked action data true, .grabbed action true]).append _
  | aside | finished | declined | refused | fruitless => cases hstarted

theorem Turn.not_begun {before after : Option Session} {started : Bool} {new : List Signal}
    {action : Action} {set : Option ClientSet} {data : ActionData}
    (h : Turn action set data before started new after) (hnot : started = false) :
    (after = before ∧ ∀ signal ∈ new, signal.IsAside) ∨ after = none := by
  cases h with
  | aside plain =>
      refine Or.inl ⟨rfl, ?_⟩
      simpa [Signal.IsAside] using plain
  | finished | declined | refused | fruitless => exact Or.inr rfl
  | continued | opened => cases hnot

theorem Passage.begun {before after : Option Session} {started : Bool} {new : List Signal}
    (h : Passage before started new after) (hstarted : started = true) : BegunLast new after := by
  induction h with
  | nil => cases hstarted
  | tested isMatch branch ih => exact (ih hstarted).append [_]
  | turn ht => exact ht.begun hstarted
  | next entry entries ih ih' => exact (ih' hstarted).append _

/-- Without a session that has begun, a run has reached nothing interactive or has left no
session. -/
theorem Passage.not_begun {before after : Option Session} {started : Bool} {new : List Signal}
    (h : Passage before started new after) (hnot : started = false) :
    (after = before ∧ ∀ signal ∈ new, signal.IsAside) ∨ after = none := by
  induction h with
  | nil => simp
  | tested isMatch branch ih =>
      rcases ih hnot with ⟨hafter, haside⟩ | hafter
      · exact Or.inl ⟨hafter, List.forall_mem_cons.2 ⟨trivial, haside⟩⟩
      · exact Or.inr hafter
  | turn ht => exact ht.not_begun hnot
  | next entry entries ih ih' =>
      rcases ih' hnot with ⟨hafter, haside⟩ | hafter
      · rcases ih rfl with ⟨hmiddle, haside'⟩ | hmiddle
        · exact Or.inl ⟨hafter.trans hmiddle, List.forall_mem_append.2 ⟨haside', haside⟩⟩
        · exact Or.inr (hafter.trans hmiddle)
      · exact Or.inr hafter

/-- What the surroundings of a seat without devices do by themselves: windows come and go, and
grabs are denied or not. -/
inductive HeadlessChange where
  | manage (window : UInt32) (state : ClientState)
  | unmanage (window : UInt32)
  | deny (value : Bool)

def HeadlessChange.apply : HeadlessChange → World HeadlessSeat → World HeadlessSeat
  | manage window state, world =>
    (world.1, world.2.withClients fun store => (store.manage window state).2)
  | unmanage window, world => (world.1, world.2.withClients (·.unmanage window))
  | deny value, world => ({ world.1 with denyGrabs := value }, world.2)

theorem HeadlessChange.grabbed_apply (change : HeadlessChange) (world : World HeadlessSeat) :
    (change.apply world).1.grabbed = world.1.grabbed := by
  cases change <;> rfl

namespace Engine

theorem running_happen (engine : Engine HeadlessSeat) (happening : Happening HeadlessChange)
    (h : engine.stage.isRunning = engine.stage.seat.grabbed) :
    (engine.happen HeadlessChange.apply happening).stage.isRunning =
      (engine.happen HeadlessChange.apply happening).stage.seat.grabbed := by
  cases happening with
  | call call =>
      obtain ⟨new, hw, hcourse⟩ := engine.perform_course call
      have hgrabbed := grabbed_replay hw.world
      rw [show engine.stage.world.1.grabbed = engine.stage.session.isSome from h.symm,
        hcourse.keyboard] at hgrabbed
      exact hgrabbed.symm
  | parse source => exact h
  | host change => exact h.trans (change.grabbed_apply engine.stage.world).symm

/-- An engine has a session exactly as long as the keyboard is grabbed, and a run of a list tells
by its answer where it stopped. -/
theorem running_eq_grabbed (vocabulary : Vocabulary) (position : Int × Int) (denyGrabs : Bool)
    (desktop : Desktop) (journal : List Signal) (happenings : List (Happening HeadlessChange)) :
    let engine := Engine.after HeadlessChange.apply
      ⟨vocabulary, { seat := { position, denyGrabs }, desktop, journal }⟩ happenings
    engine.stage.isRunning = engine.stage.seat.grabbed ∧
    ∀ list trigger, ∃ new,
      engine.stage.Writes new (engine.run list trigger).2.stage ∧
      ((engine.run list trigger).1 = true →
        ∃ session set data earlier, (engine.run list trigger).2.stage.session = some session ∧
          new = earlier ++ [.ran session.action set data true]) ∧
      ((engine.run list trigger).1 = false →
        ((engine.run list trigger).2.stage.session = engine.stage.session ∧
            ∀ signal ∈ new, signal.IsAside) ∨
          (engine.run list trigger).2.stage.session = none) := by
  intro engine
  constructor
  · exact after_induct (P := fun engine : Engine HeadlessSeat =>
        engine.stage.isRunning = engine.stage.seat.grabbed)
      running_happen _ rfl happenings
  · intro list trigger
    obtain ⟨new, hw, hpassage⟩ := engine.stage.runList_passage list trigger
    exact ⟨new, hw, hpassage.begun, hpassage.not_begun⟩

end Engine

end WindowActions
