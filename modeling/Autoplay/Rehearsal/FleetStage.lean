import Autoplay.Fleet.Basic
import Autoplay.Rehearsal.Stage

/-!
# The stage of a fleet

A fleet at work in a time of its own: every action of a worker takes a moment, commands and pauses
take as long as they take, and what comes first happens first. A worker that pauses wakes up when
its run is told to stop. Stops come from outside or when something in the surroundings asks for one,
maybe in the middle of a command of a worker, which then waits as well. Several of them may be under
way; each waits for the workers of the run that it was called on, as long as the settings say.
-/

namespace Autoplay

/-- What the workers of a fleet talk to. -/
structure Site (ε : Type) where
  /-- Answers a question of a worker at a time; the answer takes a while. -/
  answer : (worker now : Nat) → (q : Request) → ε → Except Breakdown q.Answer × Duration × ε
  /-- A worker is there for a device. -/
  recruited : (serial : String) → ε → ε
  /-- When the next stop is due after a number of them, as far as that is known, and the worker in
  the middle of whose command it comes, if there is one. -/
  stopDue : (before : Nat) → ε → Option (Nat × Option Nat)

/-- When a worker gets on. -/
structure Timer where
  /-- The time. -/
  due : Nat
  /-- Whether it pauses until then. -/
  asleep : Bool := false

/-- Who calls a stop. -/
inductive Caller where
  /-- Someone outside. -/
  | outside
  /-- The surroundings, maybe in the middle of a command of a worker. -/
  | surroundings (worker : Option Nat)
deriving DecidableEq

/-- A stop that waits for the workers. -/
structure Ending where
  /-- The run that it was called on. -/
  run : Nat
  /-- When it began. -/
  since : Nat
  /-- When it waits no longer. -/
  deadline : Nat
  /-- Who waits for it to end. -/
  caller : Caller

/-- How often a stop looks whether the workers have ended. -/
def Ending.glance : Nat := 10000000

/-- When a stop ends as things are: at one of its looks when no worker is at work any more, or when
it waits no longer. -/
def Ending.due (e : Ending) (busy : Bool) (now : Nat) : Nat :=
  if busy then e.deadline
  else min e.deadline (e.since + (now - e.since + glance - 1) / glance * glance)

/-- A fleet at work. -/
structure FleetStage (ε : Type) where
  /-- What the workers know. -/
  plan : Plan
  /-- The fleet. -/
  fleet : Fleet := {}
  /-- What is around it. -/
  around : ε
  /-- The time. -/
  now : Nat := 0
  /-- When the workers get on. -/
  timers : List Timer := []
  /-- The stops that are under way. -/
  endings : List Ending := []
  /-- The number of stops that the surroundings asked for. -/
  stops : Nat := 0
  /-- Whether such a stop came when nothing ran. -/
  vain : Bool := false
  /-- Whether a start broke off. -/
  broken : Bool := false

/-- What can happen next. -/
inductive Happening where
  /-- The surroundings ask for a stop, maybe in the middle of a command of a worker. -/
  | stop (worker : Option Nat)
  /-- A stop ends that is under way. -/
  | stopped (i : Nat)
  /-- A worker gets on. -/
  | work (i : Nat)
deriving DecidableEq, Repr

namespace FleetStage

variable {ε : Type}

/-- What every action takes. -/
def moment : Nat := 1000

/-- Starts the fleet; the system refuses no worker. -/
def start (site : Site ε) (s : FleetStage ε) (serials : List String) (resume : Bool) :
    FleetStage ε × Except FleetError Unit :=
  let (fleet, r) := s.fleet.start serials resume (serials.map Hitch.ofName)
  let crew := (fleet.workers.drop s.fleet.workers.length).map fun w => w.progress.serial
  let s :=
    { s with
      fleet
      around := crew.foldl (fun e serial => site.recruited serial e) s.around
      timers := s.timers ++ crew.map fun _ => ⟨s.now, false⟩ }
  match r with
  | .ok () => (s, .ok ())
  | .error e => (s, .error e)
  -- Nothing is told of a start that broke off; who plays on looks at the stage.
  | .broken => ({ s with broken := true }, .ok ())

/-- Wakes the workers of a run. -/
def wake (s : FleetStage ε) (run : Nat) : FleetStage ε :=
  { s with
    timers := (s.fleet.workers.zip s.timers).map fun (w, t) =>
      if w.run = run ∧ t.asleep then { t with due := min t.due s.now } else t }

/-- How long a stop waits for the workers. -/
def patience (s : FleetStage ε) : Nat :=
  ((Duration.ofSeconds? s.plan.settings.timing.joinTimeout).getD .zero).nanos

/-- Begins a stop. -/
def beginStop (s : FleetStage ε) (caller : Caller) : FleetStage ε × Bool :=
  let (fleet, begun) := s.fleet.beginStop
  let s := { s with fleet }
  if begun then
    let ending := ⟨fleet.run, s.now, s.now + s.patience, caller⟩
    ({ s.wake fleet.run with endings := s.endings ++ [ending] }, true)
  else (s, false)

/-- Whether a worker of a run is said to be at work. -/
def isBusyIn (s : FleetStage ε) (run : Nat) : Bool :=
  s.fleet.workers.any fun w => w.run = run && w.progress.running

/-- Whether a worker waits for the end of a stop. -/
def isHeldUp (s : FleetStage ε) (i : Nat) : Bool :=
  s.endings.any fun e => e.caller = .surroundings (some i)

/-- Of some things with their times the first one. -/
def first {α : Type} (xs : List (α × Nat)) : Option (α × Nat) :=
  xs.foldl
    (fun first x =>
      match first with
      | none => some x
      | some y => if x.2 < y.2 then some x else some y) none

/-- The worker that gets on first, and when. -/
def firstWorker (s : FleetStage ε) : Option (Nat × Nat) :=
  first ((s.fleet.workers.zip s.timers).zipIdx.filterMap fun ((w, t), i) =>
    if w.phase.isOver || s.isHeldUp i then none else some (i, t.due))

/-- The stop that ends first, and when. -/
def firstEnding (s : FleetStage ε) : Option (Nat × Nat) :=
  first (s.endings.zipIdx.map fun (e, i) => (i, e.due (s.isBusyIn e.run) s.now))

/-- The stop that the surroundings ask for next, and when. They do not ask for one while another of
theirs is under way. -/
def nextStop (site : Site ε) (s : FleetStage ε) : Option (Option Nat × Nat) :=
  if s.endings.any fun e => e.caller ≠ .outside then none
  else (site.stopDue s.stops s.around).map fun (due, worker) => (worker, due)

/-- Of two things with their times the earlier one, and of two at the same time the first. -/
def earlier (a b : Option (Happening × Nat)) : Option (Happening × Nat) :=
  match a, b with
  | some x, some y => if y.2 < x.2 then some y else some x
  | some x, none => some x
  | none, b => b

/-- What happens next, and when. -/
def upcoming (site : Site ε) (s : FleetStage ε) : Option (Happening × Nat) :=
  earlier (s.firstEnding.map fun (i, due) => (.stopped i, due))
    (earlier ((s.nextStop site).map fun (worker, due) => (.stop worker, due))
      (s.firstWorker.map fun (i, due) => (.work i, due)))

/-- A worker gets on to a phase and rests there for a while. -/
def goOn (s : FleetStage ε) (i : Nat) (phase : Phase) (length : Nat) : FleetStage ε :=
  { s with
    fleet := s.fleet.enter i phase
    timers := s.timers.set i ⟨s.now + moment + length, false⟩ }

/-- Answers the question of a worker. -/
def reply (site : Site ε) (s : FleetStage ε) (i : Nat) (stopped asleep : Bool) (q : Question) :
    FleetStage ε :=
  match q with
  | ⟨.stopRequested, next⟩ => s.goOn i (next stopped) 0
  | ⟨.pause d, next⟩ =>
    if stopped then s.goOn i (next true) 0
    else if asleep then s.goOn i (next false) 0
    else { s with timers := s.timers.set i ⟨s.now + d.nanos, true⟩ }
  | ⟨.clock, next⟩ => s.goOn i (next s.now) 0
  | ⟨.note _, next⟩ => s.goOn i (next ()) 0
  | ⟨.makeFolders path, next⟩ =>
    let (files, r) := s.fleet.files.makeFolders path
    { s with fleet := { s.fleet with files } }.goOn i (next r) 0
  | ⟨q, next⟩ =>
    let (r, length, around) := site.answer i s.now q s.around
    let s := { s with around }
    match r with
    | .ok a => s.goOn i (next a) length.nanos
    | .error _ => s.goOn i .crashed length.nanos

/-- A worker gets on. -/
def work (site : Site ε) (s : FleetStage ε) (i : Nat) : FleetStage ε :=
  match s.fleet.workers[i]? with
  | none => s
  | some w =>
    match w.phase.question? with
    | some q =>
      let asleep := match s.timers[i]? with
        | some t => t.asleep
        | none => false
      s.reply site i (s.fleet.isStopped w.run) asleep q
    | none =>
      { s with
        fleet := s.fleet.act s.plan i
        timers := s.timers.set i ⟨s.now + moment, false⟩ }

/-- A stop ends. The command in the middle of which it was called goes on from here. -/
def endStop (s : FleetStage ε) (i : Nat) : FleetStage ε :=
  match s.endings[i]? with
  | none => s
  | some e =>
    let timers := match e.caller with
      | .surroundings (some j) =>
        s.timers.modify j fun t => { t with due := t.due + (s.now - e.since) }
      | _ => s.timers
    { s with fleet := s.fleet.endStop, endings := s.endings.eraseIdx i, timers }

/-- Something happens. -/
def happen (site : Site ε) (s : FleetStage ε) : Happening → FleetStage ε
  | .stop worker =>
    let (s, begun) := { s with stops := s.stops + 1 }.beginStop (.surroundings worker)
    if begun then s else { s with vain := true }
  | .stopped i => s.endStop i
  | .work i => s.work site i

/-- Lets things happen until something holds, or nothing happens any more up to a time; `fuel`
bounds their number. -/
def playUntil (site : Site ε) (holds : FleetStage ε → Bool) (limit : Option Nat) :
    Nat → FleetStage ε → FleetStage ε
  | 0, s => s
  | fuel + 1, s =>
    if holds s then s
    else
      match s.upcoming site with
      | none => s
      | some (h, due) =>
        match limit with
        | some t =>
          if t < due then { s with now := max s.now t }
          else playUntil site holds limit fuel ({ s with now := max s.now due }.happen site h)
        | none => playUntil site holds limit fuel ({ s with now := max s.now due }.happen site h)

/-- Whether all workers of the last run have come to their end. -/
def isOver (s : FleetStage ε) : Bool := s.fleet.crew.all fun w => w.phase.isOver

/-- Stops the fleet, and says whether it ran. -/
def stop (site : Site ε) (s : FleetStage ε) (fuel : Nat) : FleetStage ε × Bool :=
  let (s, begun) := s.beginStop .outside
  (s.playUntil site (fun s => s.endings.all fun e => e.caller ≠ .outside) none fuel, begun)

/-- Waits until all workers of the last run have come to their end. -/
def wait (site : Site ε) (s : FleetStage ε) (fuel : Nat) : FleetStage ε :=
  s.playUntil site isOver none fuel

/-- What can be seen of the fleet. -/
def status (s : FleetStage ε) : FleetStage ε × FleetStatus :=
  let (fleet, r) := s.fleet.status
  ({ s with fleet }, r)

end FleetStage

/-- Scripted devices and scripted sight around a fleet: all devices share one log and one sight, and
each has its own copy of the script. -/
structure Studio (π : Type) where
  /-- The log, what is needed to see, the day, and the number of log lines with which a
  stop comes. -/
  shared : Stage π
  /-- The script of each device. -/
  script : DeviceScript := {}
  /-- The devices that are not there. -/
  absent : List String := []
  /-- The devices of the workers. -/
  devices : List DeviceScript := []
  /-- When a stop came with a log line, and the worker whose line it was. -/
  stopTime : Option (Nat × Nat) := none

/-- The scripted surroundings of a fleet. -/
def studio {π : Type} (sight : Sight π) : Site (Studio π) where
  answer i now q e :=
    let before := { e.shared with device := e.devices.getD i e.script, now }
    let (r, after) := Stage.answer sight q before
    (.ok r, ⟨after.now - now⟩,
      { e with
        shared := after
        devices := e.devices.set i after.device
        stopTime := e.stopTime.or (if after.stopped then some (now, i) else none) })
  recruited serial e :=
    { e with
      devices := e.devices ++
        [{ e.script with absent := if serial ∈ e.absent then some serial else none }] }
  stopDue before e :=
    if before = 0 then e.stopTime.map fun (due, i) => (due, some i) else none

end Autoplay
