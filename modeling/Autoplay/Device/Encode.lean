import Autoplay.Device.Listing
import Autoplay.Document.Basic

/-!
# Lists of devices as documents

The devices of a list, written as documents.
-/

namespace Autoplay

/-- A state as a document: its word, or what else it is. -/
def DeviceState.encode : DeviceState → Document
  | .other word => .record [("other", .text word)]
  | s => .text s.name

/-- A screen size as a document. -/
def screenSizeDocument : Option (Nat × Nat) → Document
  | some (width, height) => .list [.integer width, .integer height]
  | none => .null

/-- A device as a document. -/
def DeviceInfo.encode (d : DeviceInfo) : Document :=
  .record [("serial", .text d.serial), ("state", d.state.encode),
    ("model", match d.model with
      | some model => .text model
      | none => .null),
    ("size", screenSizeDocument d.screenSize)]

end Autoplay
