import WindowActions.Proofs.Builtin.Lockstep
import WindowActions.Proofs.Builtin.Programs
import WindowActions.Proofs.Session.Keyboard

/-!
# What can be seen of an engine

Serial numbers are no part of what can be seen of an engine: clients are named by their windows in a
request, and a report tells their windows and states. It also tells the answer to the request, the
session, the keyboard and the pointer, and which commands and warnings are new.

Engines with the same names whose stages go in step give the same reports on the same requests.
-/

namespace WindowActions

/-- Something that is asked of an engine or that happens to its host. A list may run for the client
of a window, if there is one. -/
inductive Request where
  | run (list : ActionList) (trigger : Trigger) (target : Option UInt32)
  | input (event : InputEvent)
  | cancel
  | shutdown
  | parse (source : String)
  | host (change : HeadlessChange)

structure Report where
  answer : Answer
  running : Bool
  seat : HeadlessSeat
  clients : List ClientSpec
  /-- The command lines that are started because of the request. -/
  commands : List String
  /-- The warnings that are given because of the request. -/
  warnings : List Warning

/-- The lists that run consist of builtin actions, and their filters see no serial numbers. -/
def Request.IsOrdinary : Request → Prop
  | run list _ _ => entriesOnly Action.IsBuiltin list ∧ entriesTest (·.Respects Eq) list
  | _ => True

/-- Programs that are read with the builtin vocabulary may run. -/
theorem Request.isOrdinary_run [PatternEngine] {source : String} {list : ActionList}
    (h : (Vocabulary.builtin.parse source).result = .ok list) (trigger : Trigger)
    (target : Option UInt32) : (Request.run list trigger target).IsOrdinary :=
  ⟨Vocabulary.parse_builtin h,
    entriesTest_mono (fun _ hf => hf.respects) (Vocabulary.parse_builtin_filters h)⟩

namespace Engine

/-- The event as it is for the client of a window. -/
def aimed (engine : Engine HeadlessSeat) (trigger : Trigger) (target : Option UInt32) : Trigger :=
  { trigger with client := (target.bind engine.stage.desktop.clients.find?).map (·.ref) }

def serve (engine : Engine HeadlessSeat) : Request → Answer × Engine HeadlessSeat
  | .run list trigger target =>
    let (started, engine) := engine.run list (engine.aimed trigger target)
    (.truth started, engine)
  | .input event =>
    let (consumed, engine) := engine.input event
    (.truth consumed, engine)
  | .cancel => (.done, engine.cancel)
  | .shutdown => (.done, engine.shutdown)
  | .parse source =>
    let (result, engine) := engine.parse source
    (.program result, engine)
  | .host change => (.done, { engine with stage := engine.stage.withWorld change.apply })

/-- What can be seen of a request that has led from one engine to another. -/
def report (engine after : Engine HeadlessSeat) (answer : Answer) : Report where
  answer
  running := after.stage.isRunning
  seat := after.stage.seat
  clients := after.stage.desktop.clients.specs
  commands := after.stage.desktop.commands.drop engine.stage.desktop.commands.length
  warnings := after.stage.desktop.warnings.drop engine.stage.desktop.warnings.length

/-- The reports on several requests, made one after the other. -/
def reports (engine : Engine HeadlessSeat) : List Request → List Report
  | [] => []
  | request :: requests =>
    let (answer, after) := engine.serve request
    engine.report after answer :: after.reports requests

end Engine

theorem Desktop.Twins.foldl_warn {p : Pairing} {start start' d d' : Desktop}
    (h : Desktop.Twins p start start' d d') (warnings : List Warning) :
    Desktop.Twins p start start' (warnings.foldl Desktop.warn d)
      (warnings.foldl Desktop.warn d') := by
  induction warnings generalizing d d' with
  | nil => exact h
  | cons warning warnings ih => exact ih ((Desktop.Twins.likens p start start').warn warning h)

/-- Two engines with the same names whose stages go in step. -/
structure Engine.Twins (p : Pairing) (start start' : Desktop)
    (engine engine' : Engine HeadlessSeat) : Prop where
  vocabulary : engine.vocabulary = engine'.vocabulary
  stage : engine.stage.Beside p (Desktop.Twins p start start') engine'.stage

namespace Engine.Twins

variable {p : Pairing} {start start' : Desktop} {engine engine' after after' : Engine HeadlessSeat}

theorem aimed (h : Engine.Twins p start start' engine engine') (trigger : Trigger)
    (target : Option UInt32) :
    ((engine.aimed trigger target).data engine.stage).Twins p
      ((engine'.aimed trigger target).data engine'.stage) := by
  refine ⟨rfl, ?_⟩
  cases target with
  | none => exact .none
  | some window => exact rel_map (h.stage.desktop.clients.find? window) fun _ _ hc => hc.ref

theorem host (h : Engine.Twins p start start' engine engine') (change : HeadlessChange) :
    Engine.Twins p start start' { engine with stage := engine.stage.withWorld change.apply }
      { engine' with stage := engine'.stage.withWorld change.apply } := by
  obtain ⟨hvocabulary, hseat, hsession, hlockstep, hdesktop⟩ := h
  refine ⟨hvocabulary, ?_, hsession, hlockstep, ?_⟩
  · cases change with
    | manage | unmanage => exact hseat
    | deny value => exact congrArg (fun seat => { seat with denyGrabs := value }) hseat
  · cases change with
    | manage window state =>
        exact ⟨hdesktop.clients.manage window rfl, hdesktop.cycles, hdesktop.commands,
          hdesktop.warnings⟩
    | unmanage window =>
        exact ⟨hdesktop.clients.unmanage window, hdesktop.cycles, hdesktop.commands,
          hdesktop.warnings⟩
    | deny value => exact hdesktop

/-- The same request gets the same answer and leaves twins. -/
theorem serve (h : Engine.Twins p start start' engine engine') {request : Request}
    (hordinary : request.IsOrdinary) :
    Alongside (Engine.Twins p start start') (engine.serve request) (engine'.serve request) := by
  cases request with
  | run list trigger target =>
      have honly : entriesOnly (·.behavior.Lockstep p (Desktop.Twins p start start')) list :=
        entriesOnly_mono (fun action haction => haction.lockstep start start') hordinary.1
      have hran := runEntries_beside (Desktop.Twins.likens p start start') (h.aimed trigger target)
        h.stage .none list honly hordinary.2
      exact ⟨congrArg Answer.truth hran.1, h.vocabulary, hran.2⟩
  | input event =>
      have hheard := h.stage.input event
      exact ⟨congrArg Answer.truth hheard.1, h.vocabulary, hheard.2⟩
  | cancel => exact ⟨rfl, h.vocabulary, h.stage.cancel⟩
  | shutdown => exact ⟨rfl, congrArg Vocabulary.clear h.vocabulary, h.stage.cancel⟩
  | parse source =>
      obtain ⟨hvocabulary, hseat, hsession, hlockstep, hdesktop⟩ := h
      simp only [Engine.serve, Engine.parse, hvocabulary]
      exact ⟨rfl, rfl, hseat, hsession, hlockstep, hdesktop.foldl_warn _⟩
  | host change => exact ⟨rfl, h.host change⟩

theorem report (h : Engine.Twins p start start' engine engine')
    (hafter : Engine.Twins p start start' after after') (answer : Answer) :
    engine.report after answer = engine'.report after' answer := by
  have hrunning := hafter.stage.isRunning
  have hspecs := hafter.stage.desktop.clients.specs_eq
  have hcommands := h.stage.desktop.commands.drop_eq hafter.stage.desktop.commands
  have hwarnings := h.stage.desktop.warnings.drop_eq hafter.stage.desktop.warnings
  rw [Engine.report, Engine.report, hrunning, hafter.stage.seat, hspecs, hcommands, hwarnings]

theorem reports (h : Engine.Twins p start start' engine engine') (requests : List Request)
    (hordinary : ∀ request ∈ requests, request.IsOrdinary) :
    engine.reports requests = engine'.reports requests := by
  induction requests generalizing engine engine' with
  | nil => rfl
  | cons request requests ih =>
      obtain ⟨hrequest, hrequests⟩ := List.forall_mem_cons.1 hordinary
      have hserved := h.serve hrequest
      rw [Engine.reports, Engine.reports]
      generalize engine.serve request = served, engine'.serve request = served' at hserved ⊢
      obtain ⟨answer, after⟩ := served
      obtain ⟨answer', after'⟩ := served'
      obtain ⟨rfl, hafter⟩ := hserved
      exact congrArg₂ List.cons (h.report hafter answer) (ih hafter hrequests)

end Engine.Twins

end WindowActions
