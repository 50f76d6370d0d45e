import Autoplay.Fleet.Worker

/-!
# Fleets

Several devices process the accounts of one queue together, each driven by a worker of its own. A
fleet is idle at first; it runs after a start, is completed when no worker runs any more, and is
idle again after a stop. Each start begins a new run with workers of its own, and a stop is told to
the workers of the run under way only. A stop takes two actions, since the workers go on between the
moment when they are told and the moment when the fleet is idle. A start may find that the worker of
a device cannot be started; by then the run has begun, and the workers before that one are at work.
-/

namespace Autoplay

/-- Where a fleet stands. -/
inductive FleetState where
  /-- Nothing has been started, or what was started has been stopped. -/
  | idle
  /-- Workers are at work. -/
  | running
  /-- All workers have come to their end. -/
  | completed
deriving DecidableEq, Repr

/-- The word for a state. -/
def FleetState.name : FleetState → String
  | .idle => "Idle"
  | .running => "Running"
  | .completed => "Completed"

/-- Why a fleet cannot be started. -/
inductive FleetError where
  /-- It has been started already. -/
  | alreadyRunning
  /-- There are no accounts. -/
  | emptyQueue
  /-- There are no devices. -/
  | noDevices
  /-- A worker cannot be started. -/
  | unstartable (serial : String) (reason : SystemError)
deriving DecidableEq, Repr

/-- The wording of an error. -/
def FleetError.message : FleetError → String
  | .alreadyRunning => "multi-device processing is already running"
  | .emptyQueue => "no accounts in queue, load a folder first"
  | .noDevices => "no devices specified"
  | .unstartable serial reason => "failed to spawn worker for " ++ serial ++ ": " ++ reason.text

/-- Whether a run has begun by the time when it shows. -/
def FleetError.isLate : FleetError → Bool
  | .unstartable _ _ => true
  | _ => false

/-- What keeps the worker of a device from being started. -/
inductive Hitch where
  /-- The system refuses it. -/
  | refused (reason : SystemError)
  /-- It cannot be named after the device, as with a zero character in the name; the start breaks
  off there. -/
  | unnameable
deriving DecidableEq, Repr

/-- What keeps a worker from being named after its device: a zero character in the name. -/
def Hitch.ofName (serial : String) : Option Hitch :=
  if serial.contains '\x00' then some .unnameable else none

/-- What comes of something that may fail, or break off without an answer. -/
inductive Attempt (ε α : Type) where
  /-- It succeeds. -/
  | ok (a : α)
  /-- It fails. -/
  | error (e : ε)
  /-- It breaks off. -/
  | broken
deriving DecidableEq, Repr

/-- A fleet. -/
structure Fleet where
  /-- The queue of accounts. -/
  queue : AccountQueue := {}
  /-- The files. -/
  files : FileTree := {}
  /-- Where it stands. -/
  state : FleetState := .idle
  /-- The number of the last run. -/
  run : Nat := 0
  /-- The numbers of the runs that were told to stop. -/
  stopped : List Nat := []
  /-- The workers of all runs. -/
  workers : List Worker := []

/-- What can be seen of a fleet. -/
structure FleetStatus where
  /-- Where it stands. -/
  state : FleetState
  /-- What is known of the work on each device. -/
  devices : List Progress
  /-- The queue. -/
  queue : AccountQueue

namespace FleetStatus

/-- The sum of a number over all devices. -/
def total (s : FleetStatus) (number : Progress → Nat) : Nat :=
  (s.devices.map number).foldr (· + ·) 0

/-- The number of accounts that were processed. -/
def processed (s : FleetStatus) : Nat := s.total Progress.processed

/-- The number of accounts that succeeded. -/
def succeeded (s : FleetStatus) : Nat := s.total Progress.succeeded

/-- The number of accounts that failed. -/
def failed (s : FleetStatus) : Nat := s.total Progress.failed

end FleetStatus

namespace Fleet

/-- The workers of the last run. -/
def crew (f : Fleet) : List Worker := f.workers.filter fun w => w.run = f.run

/-- Whether a worker of the last run is said to be at work. -/
def isBusy (f : Fleet) : Bool := f.crew.any fun w => w.progress.running

/-- Whether a run was told to stop. -/
def isStopped (f : Fleet) (run : Nat) : Bool := run ∈ f.stopped

/-- Notices that a run is completed. -/
def refresh (f : Fleet) : Fleet :=
  if f.state = .running ∧ !f.isBusy then { f with state := .completed } else f

/-- A new worker for a device. -/
def recruit (run : Nat) (serial : String) : Worker :=
  ⟨run, { serial }, .connecting (Talk.command .connect)⟩

/-- The queue at the start of a run: it goes on with what is left if that is wanted and anything is
left, and else starts again. -/
def prepared (q : AccountQueue) (resume : Bool) : AccountQueue :=
  if resume && 0 < q.remaining then q.rewind else q.reset

/-- Of some devices, with what keeps the worker of each from being started, those before the first
worker that cannot be started, and that one. -/
def enlist : List String → List (Option Hitch) → List String × Option (String × Hitch)
  | [], _ => ([], none)
  | serial :: _, some hitch :: _ => ([], some (serial, hitch))
  | serial :: serials, hitches =>
    let (begun, hitch) := enlist serials hitches.tail
    (serial :: begun, hitch)

/-- A run begins with a worker for each of some devices. -/
def beginRun (f : Fleet) (serials : List String) (resume : Bool) : Fleet :=
  { f with
    queue := prepared f.queue resume
    state := .running
    run := f.run + 1
    workers := f.workers ++ serials.map (recruit (f.run + 1)) }

/-- What comes of a start, given the first worker that cannot be started, if there is one. -/
def outcome : Option (String × Hitch) → Attempt FleetError Unit
  | none => .ok ()
  | some (serial, .refused reason) => .error (.unstartable serial reason)
  | some (_, .unnameable) => .broken

/-- Begins to start a run with a worker for each of some devices; `hitches` tells for each of them
what keeps its worker from being started, by itself nothing. -/
def beginStart (f : Fleet) (serials : List String) (resume : Bool)
    (hitches : List (Option Hitch) := []) : Fleet × Attempt FleetError Unit :=
  let f := f.refresh
  if f.state = .running then (f, .error .alreadyRunning)
  else if f.queue.total = 0 then (f, .error .emptyQueue)
  else if serials.isEmpty then (f, .error .noDevices)
  else
    let (begun, hitch) := enlist serials hitches
    (f.beginRun begun resume, outcome hitch)

/-- A start that was refused a worker tells those that have begun to stop, and waits for none. -/
def giveUp (f : Fleet) : Fleet := { f with state := .idle, stopped := f.run :: f.stopped }

/-- Starts a run, with no action of a worker before the end of the start. -/
def start (f : Fleet) (serials : List String) (resume : Bool)
    (hitches : List (Option Hitch) := []) : Fleet × Attempt FleetError Unit :=
  match f.beginStart serials resume hitches with
  | (f, .error e) => (if e.isLate then f.giveUp else f, .error e)
  | r => r

/-- Tells the workers of the run under way to stop, if there is one. -/
def beginStop (f : Fleet) : Fleet × Bool :=
  let f := f.refresh
  if f.state = .running then ({ f with stopped := f.run :: f.stopped }, true) else (f, false)

/-- Ends a stop, whatever the workers do by then. -/
def endStop (f : Fleet) : Fleet := { f with state := .idle }

/-- What can be seen of a fleet. -/
def status (f : Fleet) : Fleet × FleetStatus :=
  let f := f.refresh
  (f, ⟨f.state, f.crew.map Worker.progress, f.queue⟩)

/-- The next action of a worker. -/
def act (p : Plan) (f : Fleet) (i : Nat) : Fleet :=
  match f.workers[i]? with
  | none => f
  | some w =>
    let b := Bench.act p (f.isStopped w.run) ⟨f.queue, f.files, w⟩
    { f with queue := b.queue, files := b.files, workers := f.workers.set i b.worker }

/-- A worker gets on to another phase, as with the answer to a question. -/
def enter (f : Fleet) (i : Nat) (phase : Phase) : Fleet :=
  match f.workers[i]? with
  | none => f
  | some w => { f with workers := f.workers.set i { w with phase } }

end Fleet

end Autoplay
