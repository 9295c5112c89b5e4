import WindowActions.Proofs.Session.Bare

/-!
# What can be told of an engine

A sighting is what can be told of an engine after something has happened to it: the answer, the
session, the seat, the desktop, and the journal as far as it is about behaviors. Sightings do not
depend on the options of actions and the values of filters. So lists that are the same without them
cannot be told apart by running them, whatever has happened before and whatever happens afterwards.
-/

namespace WindowActions

variable {S H : Type} [Seat S]

structure Sighting (S : Type) where
  answer : Answer
  running : Bool
  seat : S
  desktop : Desktop
  /-- What has been asked and told, without the options of the actions. -/
  journal : List Signal

namespace Engine

def reply (engine : Engine S) : Happening H → Answer
  | .call (.run list trigger) => .truth (engine.run list trigger).1
  | .call (.input event) => .truth (engine.input event).1
  | .call .cancel | .call .shutdown | .host _ => .done
  | .parse source => .program (engine.parse source).1

variable (change : H → World S → World S)

def sight (engine : Engine S) (happening : Happening H) : Sighting S :=
  let after := engine.happen change happening
  { answer := engine.reply happening
    running := after.stage.isRunning
    seat := after.stage.seat
    desktop := after.stage.desktop
    journal := after.stage.journal.map Signal.bare }

/-- The sightings of several things that happen one after the other. -/
def sightings (engine : Engine S) : List (Happening H) → List (Sighting S)
  | [] => []
  | happening :: happenings =>
    engine.sight change happening :: (engine.happen change happening).sightings happenings

/-- The engine without the options that its session and its journal know of. -/
def bare (engine : Engine S) : Engine S := { engine with stage := engine.stage.bare }

end Engine

/-- What happens, without the options and the values of the list that runs. -/
def Happening.bare : Happening H → Happening H
  | .call (.run list trigger) => .call (.run (bareEntries list) trigger)
  | happening => happening

namespace Engine

variable (change : H → World S → World S) (engine : Engine S) (happening : Happening H)

theorem bare_happen :
    engine.bare.happen change happening.bare = (engine.happen change happening).bare := by
  match happening with
  | .call (.run list trigger) =>
      simp only [happen, perform, run, Happening.bare, bare, Stage.bare_runList]
      rfl
  | .call (.input event) =>
      simp only [happen, perform, input, Happening.bare, bare, Stage.bare_input]
      rfl
  | .call .cancel => simp only [happen, perform, cancel, Happening.bare, bare, Stage.bare_cancel]
  | .call .shutdown =>
      simp only [happen, perform, shutdown, Happening.bare, bare, Stage.bare_cancel]
  | .parse source => rfl
  | .host h => rfl

theorem bare_reply : engine.bare.reply happening.bare = engine.reply happening := by
  match happening with
  | .call (.run list trigger) =>
      simp only [reply, run, Happening.bare, bare, Stage.bare_runList]
      rfl
  | .call (.input event) =>
      simp only [reply, input, Happening.bare, bare, Stage.bare_input]
      rfl
  | .call .cancel | .call .shutdown | .parse source | .host h => rfl

theorem bare_sight : engine.bare.sight change happening.bare = engine.sight change happening := by
  have hrunning (after : Engine S) : after.bare.stage.isRunning = after.stage.isRunning :=
    Option.isSome_map
  have hjournal (after : Engine S) :
      after.bare.stage.journal.map Signal.bare = after.stage.journal.map Signal.bare := by
    simp [bare, Stage.bare, Function.comp_def, Signal.bare_bare]
  simp only [sight, bare_happen, bare_reply, hrunning, hjournal]
  rfl

/-- What can be told of an engine does not depend on options and values. -/
theorem bare_sightings (happenings : List (Happening H)) :
    engine.bare.sightings change (happenings.map Happening.bare) =
      engine.sightings change happenings := by
  induction happenings generalizing engine with
  | nil => rfl
  | cons happening happenings ih =>
      rw [List.map_cons, sightings, sightings, bare_sight, bare_happen, ih]

/-- Lists that are the same without options and values cannot be told apart. -/
theorem sightings_run_congr {list list' : ActionList} (h : bareEntries list = bareEntries list')
    (trigger : Trigger) (happenings : List (Happening H)) :
    engine.sightings change (.call (.run list trigger) :: happenings) =
      engine.sightings change (.call (.run list' trigger) :: happenings) := by
  -- Both sides are what the bare engine shows of the bare list.
  have hfirst := engine.bare_sightings change (.call (.run list trigger) :: happenings)
  have hsecond := engine.bare_sightings change (.call (.run list' trigger) :: happenings)
  rw [List.map_cons, Happening.bare, h] at hfirst
  exact hfirst.symm.trans hsecond

end Engine

end WindowActions
