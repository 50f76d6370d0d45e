import Autoplay.Calendar
import Autoplay.Png.Decode
import Autoplay.Rehearsal.Description
import Autoplay.Rehearsal.FleetStage
import Autoplay.Rehearsal.Tools
import Autoplay.Run.Errand

/-!
# The workplace of a session

What a session at the command line works with: files, other programs, a clock and a calendar.
Interrupts come when a number of calls of the bridge program have begun and some more time has
passed.
-/

namespace Autoplay.Console

/-- When an interrupt comes. -/
structure Interrupt where
  /-- The number of calls that have begun. -/
  calls : Nat
  /-- The time after that. -/
  later : Duration := .zero

/-- The interrupt that a document describes. -/
def Interrupt.ofDocument (d : Document) : Interrupt :=
  ⟨(d.get "after_calls").nat, .ofMillis (d.get "ms").nat⟩

/-- What a session works with. -/
structure Workplace where
  /-- The files. -/
  files : FileTree := {}
  /-- The bridge program. -/
  bridge : ToolScript := {}
  /-- The program that reads. -/
  reader : ToolScript := {}
  /-- What finds templates. -/
  matcher : Matcher := {}
  /-- The date and the time of day. -/
  moment : Moment
  /-- The time since the beginning. -/
  now : Nat := 0
  /-- When the calls of the bridge program began, the last one first. -/
  begun : List Nat := []
  /-- The interrupts that come. -/
  interrupts : List Interrupt := []
  /-- The devices of workers. -/
  serials : List String := []
  /-- What was noted, the last note first. -/
  notes : List Note := []

namespace Workplace

/-- Calls the bridge program. -/
def callBridge (c : ToolCall) (w : Workplace) : ToolResult × Workplace :=
  let (r, length, bridge) := w.bridge.play c
  let begun := if w.bridge.calls.length < bridge.calls.length then w.now :: w.begun else w.begun
  (r, { w with bridge, begun, now := w.now + length.nanos })

/-- Does an errand. There are no pictures among the files, so no template can be read. -/
def answer : (e : Errand) → Workplace → e.Answer × Workplace
  | .call c, w => w.callBridge c
  | .read c, w =>
    let (r, reader) := w.reader.answerReader c
    (r, { w with reader })
  | .rest (.command _), w => (.error (.noData "command"), w)
  | .rest (.readText _ _), w => (.ok "", w)
  | .rest (.find screen path threshold), w =>
    let (r, matcher) := w.matcher.find (fun _ => none) screen path threshold
    (r, { w with matcher })
  | .rest (.findAll screen path threshold), w =>
    let (r, matcher) := w.matcher.findAll (fun _ => none) screen path threshold
    (r, { w with matcher })
  | .rest .stopRequested, w => (false, w)
  | .rest (.pause d), w => (false, { w with now := w.now + d.nanos })
  | .rest .clock, w => (w.now, w)
  | .rest .today, w => (w.moment.date, w)
  | .rest (.makeFolders path), w =>
    let (files, r) := w.files.makeFolders path
    (r, { w with files })
  | .rest (.note n), w => ((), { w with notes := n :: w.notes })

/-- Plays a dialogue of a run on a device. -/
def play {α : Type} (s : Settings) (serial : String) (d : Talk α) (w : Workplace) :
    Except Breakdown α × Workplace :=
  (d.expand (s.meet Png.decode serial)).run answer w

/-- When interrupts come, as far as that is known: after those before them, when their number of
calls has begun. -/
def interruptTimes (begun : List Nat) (earliest : Nat) : List Interrupt → List Nat
  | [] => []
  | i :: rest =>
    match (0 :: begun)[i.calls]? with
    | none => []
    | some t =>
      let due := max earliest t + i.later.nanos
      due :: interruptTimes begun due rest

/-- The workplace as surroundings of a fleet. -/
def site (s : Settings) : Site Workplace where
  answer i now q w :=
    let (r, after) := (s.meet Png.decode (w.serials.getD i "") q).run answer { w with now }
    (r, ⟨after.now - now⟩, after)
  recruited serial w := { w with serials := w.serials ++ [serial] }
  stopDue before w :=
    (interruptTimes w.begun.reverse 0 w.interrupts)[before]?.map fun due => (due, none)

/-- The folder in which described sessions take place. -/
def folder : String := "/work"

/-- The beginning of time, for descriptions that do not name a moment. -/
def epoch : Moment := ⟨⟨1970, 1, 1⟩, 0, 0⟩

/-- The workplace that a document describes: its `files`, the `replies` of the bridge program, the
`interrupts` that come, and the `moment`. -/
def ofDocument (d : Document) : Workplace :=
  let home := ({ workingFolder := Path.parts folder : FileTree }.makeFolders folder).1
  { files := (d.get "files").fields.foldl (fun t (name, f) => t.addDescribed folder name f) home
    bridge := .ofDocument ({} : BridgeSettings).program (d.get "replies")
    reader := .ofDocument ({} : RecognitionSettings).program .null
    moment := ((Moment.ofText (d.get "moment").str).toOption).getD epoch
    interrupts := (d.get "interrupts").items.map .ofDocument }

end Workplace

end Autoplay.Console
