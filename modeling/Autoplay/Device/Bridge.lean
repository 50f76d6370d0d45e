import Autoplay.Device.Command
import Autoplay.Device.Listing
import Autoplay.Dialogue
import Autoplay.Settings.Basic
import Autoplay.Text.Lowercase
import Autoplay.Text.Part
import Autoplay.Tool

/-!
# Driving devices through a program

Each command to a device becomes a call of the bridge program, a few of them two.
`BridgeSettings.perform` is the whole of it; what a call prints is read as text, but a screenshot is
a picture in a file format, which `decode` reads.
-/

namespace Autoplay

/-- A dialogue with other programs. -/
abbrev ToolTalk := Dialogue ToolCall fun _ => ToolResult

/-- A dialogue with other programs that a failure ends. -/
abbrev Driving := ExceptT DeviceError ToolTalk

namespace BridgeSettings

/-- The name of the program in messages. -/
def programName : String := "adb"

/-- The first moment that cannot be measured, in nanoseconds. -/
def farthestDeadline : Nat := 0x8000000000000000 * 1000000000

/-- Gives a failure to what comes next instead of ending with it. -/
def attempt {α : Type} (d : Driving α) : Driving (Except DeviceError α) :=
  ExceptT.mk (do pure (.ok (← d.run)))

/-- Calls the program with a limit in seconds, and names the call in messages. -/
def callAs (s : BridgeSettings) (label : String) (arguments : List String) (seconds : Float) :
    Driving ToolOutput := do
  match Duration.ofSeconds? seconds with
  | none => (Dialogue.halt .overflow : ToolTalk ToolOutput)
  | some limit =>
    let result ← (Dialogue.request ⟨s.program, arguments, some limit⟩ : ToolTalk ToolResult)
    match result with
    | .refused reason => throw (.spawn programName reason)
    | .timedOut => throw (.timeout label limit)
    | .ended o =>
      if farthestDeadline ≤ limit.nanos then (Dialogue.halt .overflow : ToolTalk ToolOutput)
      else pure o

/-- The name of a call. -/
def label (arguments : List String) : String :=
  " ".intercalate (programName :: arguments)

/-- Calls the program. -/
def call (s : BridgeSettings) (arguments : List String) (seconds : Float) : Driving ToolOutput :=
  s.callAs (label arguments) arguments seconds

/-- What is said about a call that fails: its messages, or else its output. -/
def complaint (o : ToolOutput) : String :=
  let messages := Text.trim o.messageText
  if messages.isEmpty then Text.trim o.outputText else messages

/-- Calls the program for a device; it has to end well. -/
def callFor (s : BridgeSettings) (serial : String) (arguments : List String) (seconds : Float) :
    Driving ToolOutput := do
  let arguments := "-s" :: serial :: arguments
  let o ← s.call arguments seconds
  if o.exit.isSuccess then pure o
  else throw (.failed (label arguments) o.exit.text (complaint o))

/-- Runs words as a shell command on a device. -/
def shellCall (s : BridgeSettings) (serial : String) (words : List String) : Driving ToolOutput :=
  s.callFor serial ("shell" :: words) s.commandTimeout

/-- Whether an answer says that a device is connected now. -/
def saysConnected (answer : String) : Bool :=
  let answer := (Text.lowercase answer).toList
  Text.isPart "connected".toList answer && !Text.isPart "cannot".toList answer

/-- Makes sure that a device is there. One that is named by an address is connected if
need be. -/
def connect (s : BridgeSettings) (serial : String) : Driving Unit := do
  let o ← s.call ["devices"] s.connectTimeout
  if (DeviceInfo.ofListing o.outputText).any fun d => d.serial == serial && d.state == .online then
    return
  if serial.toList.contains ':' then
    let o ← s.call ["connect", serial] s.connectTimeout
    if saysConnected o.outputText then return
  throw (.notFound serial)

/-- A command in double quotes, a double quote in it behind a backslash. -/
def quoted (line : String) : String :=
  "\"" ++ String.ofList (line.toList.flatMap fun c => if c = '"' then ['\\', '"'] else [c]) ++ "\""

/-- Runs a shell command with all rights: its output and its messages. -/
def privileged (s : BridgeSettings) (serial line : String) : Driving String := do
  let o ← s.shellCall serial ["su -c " ++ quoted line]
  pure (o.outputText ++ o.messageText)

/-- Whether an attempt to start an app says that it could not be started. -/
def saysNotStarted (output : String) : Bool :=
  Text.isPart "No activities found".toList output.toList
    || Text.isPart "aborted".toList output.toList

/-- The category of what an app shows first. -/
def launcher : String := "android.intent.category.LAUNCHER"

/-- Starts an app, and if that does not work asks for what it shows first. -/
def startApp (s : BridgeSettings) (serial package : String) : Driving Unit := do
  match ← attempt (s.shellCall serial ["monkey", "-p", package, "-c", launcher, "1"]) with
  | .ok o => if !saysNotStarted o.outputText then return
  | .error _ => pure ()
  let _ ← s.shellCall serial
    ["am", "start", "-a", "android.intent.action.MAIN", "-c", launcher, "-p", package]

/-- Takes a screenshot. -/
def screenshot (s : BridgeSettings) (decode : List UInt8 → Option Picture) (serial : String) :
    Driving Picture := do
  let o ← s.callFor serial ["exec-out", "screencap", "-p"] s.screenshotTimeout
  if o.output.isEmpty then throw (.noData "screencap")
  match decode o.output with
  | some p => pure p
  | none => throw .undecodable

/-- Carries out a command. -/
def perform (s : BridgeSettings) (decode : List UInt8 → Option Picture) (serial : String) :
    (c : Command) → Driving c.Reply
  | .connect => s.connect serial
  | .tap x y => do
    let _ ← s.shellCall serial ["input", "tap", Command.signed x, Command.signed y]
  | .swipe x y endX endY length => do
    let places := [x, y, endX, endY].map Command.signed
    let _ ← s.shellCall serial
      (["input", "swipe"] ++ places ++ [Decimal.digits (length.nanos / 1000000)])
  | .key name => do
    let _ ← s.shellCall serial ["input", "keyevent", name]
  | .screenshot => s.screenshot decode serial
  | .push localPath remote => do
    let _ ← s.callFor serial ["push", localPath, remote] s.transferTimeout
  | .pull remote localPath => do
    let _ ← s.callFor serial ["pull", remote, localPath] s.transferTimeout
  | .shell line => do
    let o ← s.shellCall serial [line]
    pure o.outputText
  | .privileged line => s.privileged serial line
  | .forceStop package => do
    let _ ← s.shellCall serial ["am", "force-stop", package]
  | .startApp package => s.startApp serial package

/-- Asks the devices that are ready for their screen sizes; one that does not tell has none. -/
def withScreenSizes (s : BridgeSettings) : List DeviceInfo → ToolTalk (List DeviceInfo)
  | [] => pure []
  | d :: rest => do
    let d ←
      if d.state == .online then do
        match ← (s.shellCall d.serial ["wm size"]).run with
        | .ok o => pure { d with screenSize := printedScreenSize? o.outputText }
        | .error _ => pure d
      else pure d
    let rest ← withScreenSizes s rest
    pure (d :: rest)

/-- All devices. -/
def devices (s : BridgeSettings) : Driving (List DeviceInfo) := do
  let o ← s.call ["devices", "-l"] s.commandTimeout
  s.withScreenSizes (DeviceInfo.ofListing o.outputText)

end BridgeSettings

end Autoplay
