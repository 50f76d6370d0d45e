import Autoplay.Decimal.Notation
import Autoplay.Device.Error
import Autoplay.Vision.Picture

/-!
# Commands to a device

What a device can be told to do, what it answers, and how a command is written in a log.
-/

namespace Autoplay

/-- A command to a device. -/
inductive Command where
  /-- Make sure that the device is there. -/
  | connect
  /-- Tap a place. -/
  | tap (x y : Int32)
  /-- Swipe from one place to another. -/
  | swipe (x y endX endY : Int32) (length : Duration)
  /-- Press a key. -/
  | key (name : String)
  /-- Take a screenshot. -/
  | screenshot
  /-- Copy a file to the device. -/
  | push (localPath remote : String)
  /-- Copy a file from the device. -/
  | pull (remote localPath : String)
  /-- Run a shell command. -/
  | shell (line : String)
  /-- Run a shell command with all rights. -/
  | privileged (line : String)
  /-- Close an app. -/
  | forceStop (package : String)
  /-- Start an app. -/
  | startApp (package : String)
deriving DecidableEq, Repr

namespace Command

/-- What a device answers to a command that succeeds. -/
abbrev Reply : Command → Type
  | .screenshot => Picture
  | .shell _ => String
  | .privileged _ => String
  | _ => Unit

/-- The key that leads back. -/
def backKey : String := "KEYCODE_BACK"

/-- A signed number. -/
def signed (n : Int32) : String :=
  if n < 0 then "-" ++ Decimal.digits n.toInt.natAbs else Decimal.digits n.toInt.natAbs

/-- Two numbers that are a place. -/
def place (x y : Int32) : String := signed x ++ "," ++ signed y

/-- A command as a line of a log. -/
def text : Command → String
  | .connect => "connect"
  | .tap x y => "tap " ++ place x y
  | .swipe x y endX endY length =>
    "swipe " ++ place x y ++ " -> " ++ place endX endY ++ " "
      ++ Decimal.digits (length.nanos / 1000000) ++ "ms"
  | .key name => "key " ++ name
  | .screenshot => "screenshot"
  | .push localPath remote => "push " ++ localPath ++ " " ++ remote
  | .pull remote localPath => "pull " ++ remote ++ " " ++ localPath
  | .shell line => "shell " ++ line
  | .privileged line => "su " ++ line
  | .forceStop package => "force_stop " ++ package
  | .startApp package => "start_app " ++ package

end Command

end Autoplay
