import Autoplay.Files.Operations
import Autoplay.Rehearsal.Script
import Autoplay.Run.Control

/-!
# The stage of a rehearsal

The surroundings of one run: a scripted device, a way to see, files, a clock that only waits and
slow commands move, and a log with a line for each command and each question about a screen. The
stop can be set to come with a certain line of the log: it comes when the line is written, before
the command acts.
-/

namespace Autoplay

/-- The surroundings of a rehearsal. -/
structure Stage (π : Type) where
  /-- The device. -/
  device : DeviceScript := {}
  /-- What is needed to see. -/
  seen : π
  /-- The log, its last line first. -/
  log : List String := []
  /-- What the run noted, the last note first. -/
  notes : List Note := []
  /-- Whether the run is to stop. -/
  stopped : Bool := false
  /-- The number of log lines with which the stop comes. -/
  stopAfter : Option Nat := none
  /-- The time in nanoseconds. -/
  now : Nat := 0
  /-- The day. -/
  today : Date
  /-- The files. -/
  files : FileTree := {}

namespace Stage

variable {π : Type}

/-- What a command or a question takes at least; so every loop gets on in time. -/
def effort : Nat := 1000

/-- Writes a line to the log. -/
def write (s : Stage π) (line : String) : Stage π :=
  { s with
    log := line :: s.log
    stopped := s.stopped || s.stopAfter == some (s.log.length + 1)
    now := s.now + effort }

/-- The log line of a question about a template. -/
def findLine (verb path : String) (threshold : Float32) : String :=
  verb ++ " " ++ path ++ " " ++ Decimal.plain32 threshold

/-- The log line of a question about what is written. -/
def readLine : Option Region → String
  | none => "ocr full"
  | some r =>
    "ocr " ++ ",".intercalate
      ([r.x, r.y, r.width, r.height].map fun n => Decimal.digits n.toNat)

/-- Answers a request. -/
def answer (sight : Sight π) : (q : Request) → Stage π → q.Answer × Stage π
  | .command c, s =>
    let s := s.write c.text
    let (r, delay, device) := s.device.perform c
    (r, { s with device, now := s.now + delay.nanos })
  | .find screen path threshold, s =>
    let s := s.write (findLine "find" path threshold)
    let (r, seen) := sight.find screen path threshold s.seen
    (r, { s with seen })
  | .findAll screen path threshold, s =>
    let s := s.write (findLine "find_all" path threshold)
    let (r, seen) := sight.findAll screen path threshold s.seen
    (r, { s with seen })
  | .readText screen region, s =>
    let s := s.write (readLine region)
    let (r, seen) := sight.readText screen region s.seen
    (r, { s with seen })
  | .stopRequested, s => (s.stopped, s)
  | .pause d, s => if s.stopped then (true, s) else (false, { s with now := s.now + d.nanos })
  | .clock, s => (s.now, s)
  | .today, s => (s.today, s)
  | .makeFolders path, s =>
    let (files, r) := s.files.makeFolders path
    (r, { s with files })
  | .note n, s => ((), { s with notes := n :: s.notes })

/-- The decisions that were noted, the first one first. -/
def decisions (s : Stage π) : List Decision := s.notes.reverse.filterMap Note.decision?

/-- The names that were recognised, the first one first. -/
def recognised (s : Stage π) : List String := s.notes.reverse.filterMap Note.name?

end Stage

end Autoplay
