import Autoplay.Duration
import Autoplay.SystemError
import Autoplay.Text.Utf8

/-!
# Other programs

Calls of other programs: what a program is started with, and what comes of it. A call may have a
time limit, after which the program is ended.
-/

namespace Autoplay

/-- A call of a program. -/
structure ToolCall where
  /-- The program. -/
  program : String
  /-- What it is started with. -/
  arguments : List String
  /-- How long it may take. -/
  limit : Option Duration := none
deriving DecidableEq, Repr

/-- How a program ended. -/
inductive ToolExit where
  /-- By itself, with a number; zero is success. -/
  | code (n : Nat)
  /-- By being killed. -/
  | killed
deriving DecidableEq, Repr

namespace ToolExit

/-- Whether a program ended well. -/
def isSuccess : ToolExit → Bool
  | .code n => n == 0
  | .killed => false

/-- The wording of an end. -/
def text : ToolExit → String
  | .code n => "exit status: " ++ Decimal.digits n
  | .killed => "signal: 9 (SIGKILL)"

end ToolExit

/-- What a program left behind when it ended. -/
structure ToolOutput where
  /-- How it ended. -/
  exit : ToolExit := .code 0
  /-- The bytes of its output. -/
  output : List UInt8 := []
  /-- The bytes of its messages. -/
  messages : List UInt8 := []
deriving DecidableEq, Repr

namespace ToolOutput

/-- The text of the output. -/
def outputText (o : ToolOutput) : String := Text.Utf8.decode o.output

/-- The text of the messages. -/
def messageText (o : ToolOutput) : String := Text.Utf8.decode o.messages

end ToolOutput

/-- What comes of a call. -/
inductive ToolResult where
  /-- The program cannot be started. -/
  | refused (reason : SystemError)
  /-- The program took longer than it may. -/
  | timedOut
  /-- The program ended. -/
  | ended (o : ToolOutput)
deriving DecidableEq, Repr

end Autoplay
