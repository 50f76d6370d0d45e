import Autoplay.Run.Control
import Autoplay.Settings.Basic

/-!
# Steps under way

What a step leads to, why it fails, and what all steps are made of: a step sees the workflow and the
settings, takes screenshots and asks about them. A question that fails counts as a miss.
-/

namespace Autoplay

/-- What a step leads to. -/
inductive Flow where
  /-- The next step follows. -/
  | next
  /-- The step at a position follows. -/
  | goto (index : Nat)
  /-- A wanted name was recognised, and the next step follows. -/
  | matched (name : String)
deriving DecidableEq, Repr

/-- Why a step fails. -/
inductive StepError where
  /-- The device does not do what it is told. -/
  | deviceUnreachable (reason : DeviceError)
  /-- A template did not turn up. -/
  | templateNotFound (template : String) (attempts : UInt32) (waited : Duration)
  /-- A pixel did not get its colour. -/
  | colorTimeout (x y : Int32) (waited : Duration)
  /-- A place is not on the screen. -/
  | outOfBounds (x y : Int32) (width height : Nat)
  /-- The step makes no sense. -/
  | misconfigured (reason : String)
  /-- An account cannot be exported. -/
  | export (reason : SystemError)
  /-- The run is to stop. -/
  | aborted
deriving DecidableEq, Repr

namespace StepError

/-- The wording of a failure. -/
def message : StepError → String
  | .deviceUnreachable reason => "device unreachable: " ++ reason.message
  | .templateNotFound template attempts waited =>
    "template not found: " ++ template ++ " after " ++ Decimal.digits attempts.toNat
      ++ " attempts (" ++ waited.brief ++ ")"
  | .colorTimeout x y waited =>
    "color at (" ++ Command.signed x ++ ", " ++ Command.signed y ++ ") did not match within "
      ++ waited.brief
  | .outOfBounds x y width height =>
    "position (" ++ Command.signed x ++ ", " ++ Command.signed y ++ ") outside "
      ++ Decimal.digits width ++ "x" ++ Decimal.digits height ++ " screen"
  | .misconfigured reason => "misconfigured step: " ++ reason
  | .export reason => "export failed: " ++ reason.text
  | .aborted => "aborted by stop request"

end StepError

/-- What every step of a run sees. -/
structure Context where
  /-- The workflow. -/
  workflow : Workflow
  /-- The settings. -/
  settings : Settings
  /-- The number of rounds that a loop without a fixed end may take. -/
  rounds : Nat

/-- A step under way. -/
abbrev Play := ExceptT StepError Talk

instance : MonadLift Stoppable Play := ⟨ExceptT.adapt fun _ => .aborted⟩

namespace Play

variable {α : Type}

/-- Plays something whose failure does not matter, unless it is a stop. -/
def attempt (p : Play α) : Play (Except StepError α) :=
  ExceptT.mk do
    match ← p.run with
    | .error .aborted => pure (.error .aborted)
    | result => pure (.ok result)

/-- A loop that has used up its rounds. -/
def outOfRounds : Play α := (Dialogue.halt .outOfRounds : Talk α)

/-- Takes a screenshot. -/
def capture : Play Picture := do
  match ← Stoppable.order .screenshot with
  | .ok screen => pure screen
  | .error e => throw (.deviceUnreachable e)

end Play

namespace Context

/-- Where the best hit of a template on a screen is. -/
def locate (ctx : Context) (screen : Picture) (template : String) (threshold : Float32) :
    Talk (Option Point) := do
  let path := ctx.settings.templatePath template
  match ← Talk.ask (.find screen path threshold) with
  | .ok hit => pure hit
  | .error _ => pure none

/-- Where all hits of a template on a screen are. -/
def locateAll (ctx : Context) (screen : Picture) (template : String) (threshold : Float32) :
    Talk (List Point) := do
  let path := ctx.settings.templatePath template
  match ← Talk.ask (.findAll screen path threshold) with
  | .ok hits => pure hits
  | .error _ => pure []

/-- What is written on a screen, if it can be read. -/
def readText (screen : Picture) (region : Option Region) : Talk (Option String) := do
  match ← Talk.ask (.readText screen region) with
  | .ok text => pure (some text)
  | .error _ => pure none

end Context

end Autoplay
