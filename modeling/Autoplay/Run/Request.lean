import Autoplay.Calendar
import Autoplay.Device.Command
import Autoplay.Dialogue
import Autoplay.Workflow.Basic

/-!
# What a run asks of its surroundings

A run gives commands to a device, asks what is on a screenshot, looks whether it is to stop, waits,
reads the clock and the calendar, makes a folder for exports, and notes what it does. Everything
else about a run follows from the answers.
-/

namespace Autoplay

/-- Which way a conditional step went. -/
inductive Branch where
  /-- The answer was yes, and the run goes on at a step. -/
  | thenGo (target : Nat)
  /-- The answer was no, and the run goes on at a step. -/
  | elseGo (target : Nat)
  /-- The run goes on with the next step. -/
  | skipped
deriving DecidableEq, Repr

/-- What a conditional step decided. -/
structure Decision where
  /-- Number of the step, from 1. -/
  step : Nat
  /-- Name of the condition. -/
  label : String
  /-- The way taken. -/
  branch : Branch
deriving DecidableEq, Repr

/-- Something that a run does and that its surroundings need not answer. -/
inductive Note where
  /-- The step at a position begins on its own. -/
  | began (index : Nat)
  /-- The step at a position begins as a member of a repeated group. -/
  | joined (index : Nat)
  /-- A conditional step decided. -/
  | decided (d : Decision)
  /-- A wanted name was recognised. -/
  | matched (name : String)
deriving DecidableEq, Repr

namespace Note

/-- The decision that was noted. -/
def decision? : Note → Option Decision
  | .decided d => some d
  | _ => none

/-- The recognised name that was noted. -/
def name? : Note → Option String
  | .matched name => some name
  | _ => none

end Note

/-- A request of a run. -/
inductive Request where
  /-- A command to the device. -/
  | command (c : Command)
  /-- Where is the best hit of a template on a screen? -/
  | find (screen : Picture) (path : String) (threshold : Float32)
  /-- Where are all hits of a template on a screen? -/
  | findAll (screen : Picture) (path : String) (threshold : Float32)
  /-- What is written on a screen? -/
  | readText (screen : Picture) (region : Option Region)
  /-- Is the run to stop? -/
  | stopRequested
  /-- Wait; is the run to stop by the end of it? -/
  | pause (length : Duration)
  /-- How many nanoseconds have passed? -/
  | clock
  /-- Which day is it? -/
  | today
  /-- Make a folder and those that it lies in. -/
  | makeFolders (path : String)
  /-- Take note of something. -/
  | note (n : Note)

/-- The answer to a request. Questions about a screen may fail with a text. -/
abbrev Request.Answer : Request → Type
  | .command c => Except DeviceError c.Reply
  | .find .. => Except String (Option Point)
  | .findAll .. => Except String (List Point)
  | .readText .. => Except String String
  | .stopRequested => Bool
  | .pause _ => Bool
  | .clock => Nat
  | .today => Date
  | .makeFolders _ => Except SystemError Unit
  | .note _ => Unit

/-- A dialogue of a run with its surroundings. -/
abbrev Talk := Dialogue Request Request.Answer

end Autoplay
