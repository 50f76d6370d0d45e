import Autoplay.Run.Request

/-!
# Commands, waits and stopping

The small dialogues that everything else is made of. A run that is to stop breaks off at the next
check: before each command of a step, and during each wait.
-/

namespace Autoplay

/-- A run was told to stop. -/
structure Stopped where
deriving DecidableEq, Repr

/-- The wording of a stop. -/
def Stopped.message (_ : Stopped) : String := "stop requested"

/-- A dialogue that breaks off when the run is to stop. -/
abbrev Stoppable := ExceptT Stopped Talk

namespace Talk

/-- Asks one thing. -/
def ask (q : Request) : Talk q.Answer := Dialogue.request q

/-- Gives a command to the device. -/
def command (c : Command) : Talk (Except DeviceError c.Reply) := ask (.command c)

/-- Whether the run is to stop. -/
def stopRequested : Talk Bool := ask .stopRequested

/-- The nanoseconds that have passed. -/
def clock : Talk Nat := ask .clock

/-- Takes note of something. -/
def note (n : Note) : Talk Unit := ask (.note n)

/-- A number of seconds as a length of time. -/
def seconds (x : Float) : Talk Duration :=
  match Duration.ofSeconds? x with
  | some d => .done d
  | none => .halt .overflow

end Talk

namespace Stoppable

/-- Breaks off if the run is to stop. -/
def checkpoint : Stoppable Unit := do
  if ← Talk.stopRequested then throw ⟨⟩

/-- The moment of waking up has to lie less than `2^63` seconds after the start of the clock. -/
def longestPause : Nat := 0x8000000000000000 * 1000000000

/-- Waits, and breaks off if the run is to stop. -/
def pause (d : Duration) : Stoppable Unit := do
  if longestPause ≤ d.nanos then (Dialogue.halt .overflow : Talk Unit)
  if ← Talk.ask (.pause d) then throw ⟨⟩

/-- Waits for a number of seconds. -/
def pauseSeconds (x : Float) : Stoppable Unit := do pause (← Talk.seconds x)

/-- Gives a command to the device unless the run is to stop. -/
def order (c : Command) : Stoppable (Except DeviceError c.Reply) := do
  checkpoint
  Talk.command c

end Stoppable

end Autoplay
