import Autoplay.Text.Blank
import Autoplay.Text.Lines

/-!
# Lists of devices

What the program that drives devices prints: the list of devices, one in a line, and the screen size
of a device.
-/

namespace Autoplay

/-- What a device can be used for. -/
inductive DeviceState where
  /-- It is ready. -/
  | online
  /-- It does not answer. -/
  | offline
  /-- It has not been allowed to be used. -/
  | unauthorized
  /-- Anything else, by its word. -/
  | other (word : String)
deriving DecidableEq, Repr

/-- The state that a word stands for. -/
def DeviceState.ofWord (word : String) : DeviceState :=
  if word = "device" then .online
  else if word = "offline" then .offline
  else if word = "unauthorized" then .unauthorized
  else .other word

/-- The word for a state. -/
def DeviceState.name : DeviceState → String
  | .online => "online"
  | .offline => "offline"
  | .unauthorized => "unauthorized"
  | .other word => word

/-- A device in a list. -/
structure DeviceInfo where
  /-- The name by which it is driven. -/
  serial : String
  /-- What it can be used for. -/
  state : DeviceState
  /-- The model, if the list tells it. -/
  model : Option String := none
  /-- Width and height of the screen, if they are known. -/
  screenSize : Option (Nat × Nat) := none
deriving DecidableEq, Repr

namespace DeviceInfo

/-- What follows the beginning of a text, if the text begins with it. -/
def behind? (start : List Char) (s : List Char) : Option (List Char) :=
  if start.isPrefixOf s then some (s.drop start.length) else none

/-- What follows the beginning of a word. -/
def wordBehind? (start word : String) : Option String :=
  (behind? start.toList word.toList).map String.ofList

/-- The device of the words of a line: its name and state, and a model among further words. -/
def ofWords? : List String → Option DeviceInfo
  | serial :: state :: more =>
    some { serial, state := .ofWord state, model := more.findSome? (wordBehind? "model:") }
  | _ => none

/-- Whether a line without blanks around it is about a device: it is not empty, no heading, and no
notice of the program. -/
def isEntry (line : String) : Bool :=
  !line.isEmpty && !"List of devices".toList.isPrefixOf line.toList && line.toList.head? != some '*'

/-- The devices of a list. -/
def ofListing (listing : String) : List DeviceInfo :=
  (((Text.lines listing).map Text.trim).filter isEntry).filterMap fun line =>
    ofWords? (Text.words line)

end DeviceInfo

/-- A number of screen columns or rows: digits, perhaps behind a plus sign, below `2^32`. -/
def sizeNumber? (s : List Char) : Option Nat :=
  let digits := match s with
    | '+' :: rest => rest
    | s => s
  if digits.isEmpty || !digits.all Char.isDigit then none
  else
    let n := digits.foldl (fun n c => 10 * n + (c.toNat - 48)) 0
    if n < UInt32.size then some n else none

/-- Reads a width and a height with an `x` between them. -/
def screenSizeOf? (s : List Char) : Option (Nat × Nat) :=
  let trimmed (t : List Char) := Text.trimEnd (Text.trimStart t)
  let width := s.takeWhile (· ≠ 'x')
  match s.dropWhile (· ≠ 'x') with
  | _ :: height => do
    let w ← sizeNumber? (trimmed width)
    let h ← sizeNumber? (trimmed height)
    some (w, h)
  | [] => none

/-- The size behind the first line that begins with a heading. -/
def sizeUnder? (heading : String) (printed : String) : Option (Nat × Nat) :=
  ((Text.lines printed).findSome? fun line =>
    DeviceInfo.behind? heading.toList (Text.trim line).toList).bind screenSizeOf?

/-- The screen size that a device prints; one that was set counts before the one it was
made with. -/
def printedScreenSize? (printed : String) : Option (Nat × Nat) :=
  (sizeUnder? "Override size:" printed).or (sizeUnder? "Physical size:" printed)

end Autoplay
