import Autoplay.Console.Usage
import Autoplay.Console.Workplace
import Autoplay.Storage
import Autoplay.Workflow.Selection

/-!
# Sessions

What the program does with its arguments: it lists devices, runs a workflow on one device, has a
fleet process the accounts of a folder, or deletes broken account files. The result is what is
printed, a complaint if there is one, and an exit code.
-/

namespace Autoplay.Console

/-- How a session ended. -/
structure Outcome where
  /-- The exit code. -/
  code : Nat
  /-- The lines that were printed. -/
  lines : List String := []
  /-- What went wrong. -/
  complaint : Option String := none

namespace Outcome

/-- The exit code of something that went wrong. -/
def failure (lines : List String) (complaint : String) : Outcome := ⟨1, lines, some complaint⟩

/-- The exit code for arguments that make no sense. -/
def refusal : Outcome := { code := 2 }

/-- The exit code of a breakdown. -/
def breakdown (lines : List String) : Outcome := { code := 101, lines }

/-- The exit code of an interrupt when nothing runs. -/
def interrupted : Outcome := { code := 130 }

end Outcome

/-- The number of rounds that a loop without a fixed end may take. -/
def rounds : Nat := 1000000

/-- The number of things that may happen in a fleet. -/
def happenings : Nat := 20000000

/-- Lists the devices. -/
def listDevices (s : Settings) (w : Workplace) : Outcome × Workplace :=
  match (Errands.ofTools s.bridge.devices.run).run Workplace.answer w with
  | (.error _, w) => (.breakdown [], w)
  | (.ok (.error _), w) => (.failure [] "failed to list devices", w)
  | (.ok (.ok ds), w) => ({ code := 0, lines := deviceLines ds }, w)

/-- What is said about the run of a workflow on a device. -/
def runOutcome (serial : String) (workflow : Workflow) (r : Report) (w : Workplace) : Outcome :=
  let notes := w.notes.reverse
  let lines := reportLines serial r (notes.filterMap Note.decision?) (notes.filterMap Note.name?)
  match r.status with
  | .succeeded => { code := 0, lines }
  | _ =>
    .failure lines ("workflow `" ++ workflow.name ++ "` did not complete: " ++ r.message)

/-- Runs a workflow on a device. -/
def execute (s : Settings) (serial path : String) (w : Workplace) : Outcome × Workplace :=
  match Workflow.load w.files path with
  | .error e => (.failure [] e.message, w)
  | .ok workflow =>
    match w.play s serial (Talk.command .connect) with
    | (.error _, w) => (.breakdown [], w)
    | (.ok (.error _), w) => (.failure [] ("failed to connect " ++ serial), w)
    | (.ok (.ok ()), w) =>
      match w.play s serial (Context.play ⟨workflow, s, rounds⟩) with
      | (.error _, w) => (.breakdown [], w)
      | (.ok r, w) => (runOutcome serial workflow r w, w)

/-- The workflow that the arguments ask for, if they ask for one. -/
def chosenWorkflow (workflow workflows mode month : Option String) (w : Workplace) :
    Except LoadError (Option Workflow) :=
  match workflow, workflows, mode with
  | some path, _, _ => (Workflow.load w.files path).map some
  | none, some folder, some mode =>
    (Workflow.loadFolder w.files folder).map fun all => Workflow.selectValid all mode month w.moment
  | _, _, _ => .ok none

/-- The queue of a folder. -/
def loadedQueue (s : Settings) (folder : String) (w : Workplace) : Except String AccountQueue :=
  match AccountQueue.load s.queue w.files folder with
  | .ok q => .ok q
  | .error _ => .error ("failed to load accounts from " ++ folder)

/-- Has a fleet process the accounts of a folder, until it has come to its end or an interrupt comes
when nothing runs. -/
def runFleet (s : Settings) (accounts : String) (devices : List String) (workflow : Option Workflow)
    (w : Workplace) : Outcome × Workplace :=
  match loadedQueue s accounts w with
  | .error e => (.failure [] e, w)
  | .ok queue =>
    let site := Workplace.site s
    let stage : FleetStage Workplace :=
      { plan := ⟨s, workflow, rounds⟩, fleet := { queue, files := w.files }, around := w }
    match stage.start site devices false with
    | (_, .error e) => (.failure [] e.message, w)
    | (stage, .ok ()) =>
      let stage := stage.playUntil site (fun x => x.isOver || x.vain) none happenings
      let (stage, status) := stage.status
      let w := { stage.around with files := stage.fleet.files }
      (if stage.vain then .interrupted else { code := 0, lines := statusLines status }, w)

/-- Deletes broken account files, up to the first one that cannot be deleted. -/
def discardFiles : List String → AccountQueue → List String → Workplace → Outcome × Workplace
  | [], _, lines, w => ({ code := 0, lines := lines.reverse }, w)
  | file :: rest, q, lines, w =>
    match q.delete w.files file with
    | .error _ => (.failure lines.reverse ("failed to discard " ++ file), w)
    | .ok (files, q) => discardFiles rest q (discardLine file :: lines) { w with files }

/-- Carries out an order. -/
def carryOut (s : Settings) (order : Order) (w : Workplace) : Outcome × Workplace :=
  match order with
  | .devices => listDevices s w
  | .exec device workflow => execute s device workflow w
  | .run accounts devices workflow workflows mode month =>
    match chosenWorkflow workflow workflows mode month w with
    | .error e => (.failure [] e.message, w)
    | .ok chosen => runFleet s accounts devices chosen w
  | .discard accounts files =>
    match loadedQueue s accounts w with
    | .error e => (.failure [] e, w)
    | .ok q => discardFiles files q [] w

/-- A session: the settings are loaded, and the order is carried out. -/
def session (arguments : List String) (w : Workplace) : Outcome × Workplace :=
  match Invocation.parse arguments with
  | .error (.help word) => ({ code := 0, lines := helpLines word }, w)
  | .error .version => ({ code := 0, lines := [versionLine] }, w)
  | .error .refused => (.refusal, w)
  | .ok i =>
    match Settings.load w.files i.settings with
    | .error e => (.failure [] e.message, w)
    | .ok s => carryOut s i.order { w with matcher := { settings := s.vision } }

end Autoplay.Console
