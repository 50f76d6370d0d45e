import Autoplay.Device.Bridge
import Autoplay.Recognition.Reader
import Autoplay.Run.Request

/-!
# Errands

How the requests of a run are met with a real device: a command becomes calls of the bridge program,
and reading a screen a call of the program that reads. Everything else is passed on.
-/

namespace Autoplay

/-- Something that is left to do for a request. -/
inductive Errand where
  /-- Call the bridge program. -/
  | call (c : ToolCall)
  /-- Call the program that reads. -/
  | read (c : Recognition.ReaderCall)
  /-- Meet the request as it is. -/
  | rest (q : Request)

/-- What comes of an errand. -/
abbrev Errand.Answer : Errand → Type
  | .call _ => ToolResult
  | .read _ => ToolResult
  | .rest q => q.Answer

/-- A dialogue whose requests are errands. -/
abbrev Errands := Dialogue Errand Errand.Answer

namespace Errands

/-- Calls of the bridge program as errands. -/
def ofTools {α : Type} (d : ToolTalk α) : Errands α :=
  d.expand fun c => Dialogue.request (Errand.call c)

/-- Calls of the program that reads as errands. -/
def ofReading {α : Type} (d : Recognition.Reading α) : Errands α :=
  d.expand fun c => Dialogue.request (Errand.read c)

end Errands

/-- Meets a request of a run on a device. -/
def Settings.meet (s : Settings) (decode : List UInt8 → Option Picture) (serial : String) :
    (q : Request) → Errands q.Answer
  | .command c => .ofTools (s.bridge.perform decode serial c).run
  | .readText screen region => .ofReading (Recognition.extractText s.recognition screen region)
  | q => Dialogue.request (Errand.rest q)

end Autoplay
