import Autoplay.Duration
import Autoplay.SystemError

/-!
# Failures of devices

Why a command to a device fails, and how that is said.
-/

namespace Autoplay

/-- Why a command to a device fails. -/
inductive DeviceError where
  /-- The program that drives devices cannot be started. -/
  | spawn (program : String) (reason : SystemError)
  /-- The command took longer than it may. -/
  | timeout (command : String) (limit : Duration)
  /-- The command ended with a failure. -/
  | failed (command status output : String)
  /-- The command gave nothing where something was needed. -/
  | noData (what : String)
  /-- There is no such device. -/
  | notFound (serial : String)
  /-- A screenshot is not a picture. -/
  | undecodable
  /-- The operating system refuses something else. -/
  | system (reason : SystemError)
deriving DecidableEq, Repr

namespace DeviceError

/-- The wording of a failure. -/
def message : DeviceError → String
  | .spawn program reason => "failed to spawn " ++ program ++ ": " ++ reason.text
  | .timeout command limit => "`" ++ command ++ "` timed out after " ++ limit.text
  | .failed command status output => "`" ++ command ++ "` failed (" ++ status ++ "): " ++ output
  | .noData what => what ++ " returned no data"
  | .notFound serial => "device " ++ serial ++ " not found"
  | .undecodable => "failed to decode screenshot"
  | .system reason => reason.text

end DeviceError

end Autoplay
