import Autoplay.Calendar
import Autoplay.Path

/-!
# Workflows

A workflow is a list of steps for one game screen, with a name, a span of time in which it may be
used, and the mode and month that it is meant for. A step has an action and may belong to a group of
steps that a later step repeats.
-/

namespace Autoplay

/-- A tap at a fixed place. -/
structure Click where
  /-- Column. -/
  x : Int32
  /-- Row. -/
  y : Int32
deriving DecidableEq

/-- A swipe from one place to another. -/
structure Swipe where
  /-- First column. -/
  x : Int32
  /-- First row. -/
  y : Int32
  /-- Last column. -/
  endX : Int32
  /-- Last row. -/
  endY : Int32
  /-- Length in milliseconds. -/
  millis : UInt64 := 300
deriving DecidableEq

/-- A pause. -/
structure Wait where
  /-- Length in milliseconds. -/
  millis : UInt64 := 1000
deriving DecidableEq

/-- A search for a template that is repeated until there is a hit, which is then tapped. -/
structure TemplateSearch where
  /-- Template. -/
  templatePath : String
  /-- Name for messages. -/
  templateName : Option String := none
  /-- Least score of a hit. -/
  threshold : Float32 := 0.8
  /-- Whether every hit is tapped, and not only the best one. -/
  matchAll : Bool := false
  /-- Whether the workflow goes on if there is no hit. -/
  skipIfNotFound : Bool := false
  /-- Longest search in seconds. -/
  maxWaitSeconds : Float := 10.0
  /-- Greatest number of screenshots; zero stands for no limit. -/
  maxRetries : Option UInt32 := none
  /-- Seconds between two screenshots. -/
  retryInterval : Float := 1.0
deriving DecidableEq

/-- Taps on a template for as long as it turns up. -/
structure LoopClick where
  /-- Template. -/
  templatePath : String
  /-- Least score of a hit. -/
  threshold : Float32 := 0.8
  /-- Greatest number of screenshots. -/
  maxIterations : UInt32 := 20
  /-- Number of misses in a row that end the loop. -/
  notFoundThreshold : UInt32 := 3
  /-- Seconds to wait after a tap. -/
  clickDelay : Float := 1.5
  /-- Seconds to wait after a miss. -/
  retryDelay : Float := 2.0
deriving DecidableEq

/-- A wait until a pixel has a colour. -/
structure ColorWait where
  /-- Column. -/
  x : Int32
  /-- Row. -/
  y : Int32
  /-- The colour as blue, green and red. -/
  expectedColor : List UInt8 := [255, 255, 255]
  /-- Greatest sum of the distances of the three channels. -/
  tolerance : UInt32 := 30
  /-- Longest wait in seconds. -/
  maxWaitSeconds : Float := 30.0
  /-- Seconds between two screenshots. -/
  checkInterval : Float := 1.0
deriving DecidableEq

namespace ColorWait

/-- The expected colour, if it has three channels. -/
def expectedBgr (c : ColorWait) : Option (UInt8 × UInt8 × UInt8) :=
  match c.expectedColor with
  | [b, g, r] => some (b, g, r)
  | _ => none

end ColorWait

/-- What a conditional step asks of the screen. -/
inductive Condition where
  /-- The template is there. -/
  | imageExists
  /-- The template is not there. -/
  | imageNotExists
deriving DecidableEq, Repr

/-- A step that goes on elsewhere, depending on the screen. Targets are step numbers from 1. -/
structure Conditional where
  /-- Template. -/
  templatePath : String
  /-- Least score of a hit. -/
  threshold : Float32 := 0.8
  /-- The question. -/
  condition : Condition
  /-- Where to go on if the answer is yes. -/
  gotoOnTrue : Option UInt64 := none
  /-- Where to go on if the answer is no. -/
  gotoOnFalse : Option UInt64 := none
deriving DecidableEq

/-- A step about the game itself. -/
structure App where
  /-- Package; that of the settings if there is none. -/
  package : Option String := none
deriving DecidableEq

/-- A step that runs the steps of a group again and again. -/
structure RepeatGroup where
  /-- The group. -/
  group : Option String := none
  /-- Template that is looked for after each pass. -/
  stopTemplatePath : Option String := none
  /-- Least score of a hit. -/
  threshold : Float32 := 0.8
  /-- Whether the loop ends when the template is gone, and not when it turns up. -/
  stopOnNotFound : Bool := true
  /-- Greatest number of passes. -/
  maxIterations : UInt32 := 100
deriving DecidableEq

/-- A rectangle of a screen. -/
structure Region where
  /-- Leftmost column. -/
  x : UInt32 := 320
  /-- Topmost row. -/
  y : UInt32 := 140
  /-- Width. -/
  width : UInt32 := 320
  /-- Height. -/
  height : UInt32 := 60
deriving DecidableEq, Repr

namespace Region

/-- The part of a region that lies on a screen, if any of it does. -/
def clampTo (r : Region) (width height : UInt32) : Option Region :=
  if r.x ≥ width ∨ r.y ≥ height then none
  else
    let w := min r.width (width - r.x)
    let h := min r.height (height - r.y)
    if w = 0 ∨ h = 0 then none else some ⟨r.x, r.y, w, h⟩

end Region

/-- A look at what was drawn: the name on the screen is compared with the wanted ones. -/
structure GachaCheck where
  /-- Where the name is; the whole screen if there is none. -/
  region : Option Region := none
  /-- Wanted names. -/
  targets : List String := []
  /-- Folder to which the account is exported on a hit. -/
  saveFolder : Option String := none
deriving DecidableEq

namespace GachaCheck

/-- The folder to export to; an empty path counts as none. -/
def exportFolder (g : GachaCheck) : Option String :=
  g.saveFolder.filter fun folder => !folder.isEmpty

end GachaCheck

/-- What a step does. -/
inductive Action where
  /-- Tap a fixed place. -/
  | click (s : Click)
  /-- Swipe. -/
  | swipe (s : Swipe)
  /-- Pause. -/
  | wait (s : Wait)
  /-- Search a template and tap it. -/
  | imageMatch (s : TemplateSearch)
  /-- Search a template and tap every hit. -/
  | findAllClick (s : TemplateSearch)
  /-- Tap a template for as long as it turns up. -/
  | loopClick (s : LoopClick)
  /-- Wait for a colour. -/
  | waitForColor (s : ColorWait)
  /-- Press the back key. -/
  | pressBack
  /-- Go on elsewhere, depending on the screen. -/
  | conditional (s : Conditional)
  /-- Mark the place where the game is started. -/
  | startGame (s : App)
  /-- Restart the game. -/
  | restartGame (s : App)
  /-- Repeat a group of steps. -/
  | repeatGroup (s : RepeatGroup)
  /-- Look at what was drawn. -/
  | gachaCheck (s : GachaCheck)
deriving DecidableEq

namespace Action

/-- The kinds of action, in the order of their numbers. -/
def kinds : List String :=
  ["click", "swipe", "wait", "image_match", "find_all_click", "loop_click", "wait_for_color",
    "press_back", "conditional", "start_game", "restart_game", "repeat_group", "gacha_check"]

/-- The kind of an action. -/
def kind : Action → String
  | .click _ => "click"
  | .swipe _ => "swipe"
  | .wait _ => "wait"
  | .imageMatch _ => "image_match"
  | .findAllClick _ => "find_all_click"
  | .loopClick _ => "loop_click"
  | .waitForColor _ => "wait_for_color"
  | .pressBack => "press_back"
  | .conditional _ => "conditional"
  | .startGame _ => "start_game"
  | .restartGame _ => "restart_game"
  | .repeatGroup _ => "repeat_group"
  | .gachaCheck _ => "gacha_check"

/-- Whether the action repeats a group. -/
def isRepeat : Action → Bool
  | .repeatGroup _ => true
  | _ => false

/-- The name under which an action's own parameters are known: both template searches share one. -/
def parameterName : Action → String
  | .findAllClick _ => "image_match"
  | a => a.kind

end Action

/-- The name of a template in messages: its own name, else the name of its file. -/
def templateDisplayName (name : Option String) (path : String) : String :=
  match name with
  | some n => if n.isEmpty then (Path.fileName? path).getD "unknown" else n
  | none => (Path.fileName? path).getD "unknown"

/-- A step. -/
structure Step where
  /-- Description. -/
  description : String := ""
  /-- The group that the step belongs to. -/
  group : Option String := none
  /-- What the step does. -/
  action : Action
deriving DecidableEq

/-- A workflow. -/
structure Workflow where
  /-- Number in the editor. -/
  id : Option Int64 := none
  /-- Name. -/
  name : String := ""
  /-- Description. -/
  description : String := ""
  /-- Width of the screen that the steps are meant for. -/
  screenWidth : UInt32 := 960
  /-- Height of the screen that the steps are meant for. -/
  screenHeight : UInt32 := 540
  /-- First moment at which the workflow may be used. -/
  validFrom : Option Moment := none
  /-- Last moment at which the workflow may be used. -/
  validUntil : Option Moment := none
  /-- Whether the workflow is preferred to others. -/
  isMaster : Bool := false
  /-- The mode that the workflow is meant for. -/
  modeName : Option String := none
  /-- The month that the workflow is meant for, as `YYYY-MM`. -/
  monthYear : Option String := none
  /-- Moment of the last change. -/
  updatedAt : Option Moment := none
  /-- The steps. -/
  steps : List Step := []
deriving DecidableEq

namespace Workflow

/-- The groups that some step repeats. -/
def repeatedGroups (w : Workflow) : List String :=
  w.steps.filterMap fun s =>
    match s.action with
    | .repeatGroup r => r.group
    | _ => none

/-- Whether a step only runs as a member of a repeated group. -/
def isSkipped (w : Workflow) (s : Step) : Bool :=
  !s.action.isRepeat && (match s.group with
    | some g => w.repeatedGroups.contains g
    | none => false)

/-- The steps of a group with their positions; a step that repeats a group is no member of one. -/
def members (w : Workflow) (group : String) : List (Nat × Step) :=
  (w.steps.zipIdx.map fun (s, i) => (i, s)).filter fun (_, s) =>
    s.group == some group && !s.action.isRepeat

/-- Whether the workflow may be used at a moment, its first and last moments included. -/
def isValidAt (w : Workflow) (now : Moment) : Bool :=
  (match w.validFrom with
    | some first => first.notAfter now
    | none => true) &&
  (match w.validUntil with
    | some last => now.notAfter last
    | none => true)

end Workflow

end Autoplay
