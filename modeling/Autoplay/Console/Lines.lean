import Autoplay.Device.Listing
import Autoplay.Fleet.Basic
import Autoplay.Run.Program

/-!
# Lines of output

What is printed about devices, about the run of a workflow, and about the work of a fleet.
-/

namespace Autoplay.Console

/-- A text in a column of a width; a longer text takes more room. -/
def column (width : Nat) (s : String) : String :=
  s ++ String.ofList (List.replicate (width - s.length) ' ')

/-- What is printed if there are no devices. -/
def noDevices : String := "没有已连接的设备"

/-- A screen size, or a dash if it is not known. -/
def sizeText : Option (Nat × Nat) → String
  | some (width, height) => Decimal.digits width ++ "x" ++ Decimal.digits height
  | none => "-"

/-- The line of a device. -/
def deviceLine (d : DeviceInfo) : String :=
  " ".intercalate
    [column 24 d.serial, column 14 d.state.name, column 20 (d.model.getD "-"),
      sizeText d.screenSize]

/-- The lines of a list of devices. -/
def deviceLines : List DeviceInfo → List String
  | [] => [noDevices]
  | ds => ds.map deviceLine

/-- Which way a conditional step went. -/
def branchText : Branch → String
  | .thenGo target => "Then(" ++ Decimal.digits target ++ ")"
  | .elseGo target => "Else(" ++ Decimal.digits target ++ ")"
  | .skipped => "Skipped"

/-- The line of a decision. -/
def decisionLine (d : Decision) : String :=
  "  - step " ++ Decimal.digits d.step ++ " " ++ d.label ++ " => " ++ branchText d.branch

/-- The lines about the run of a workflow on a device. -/
def reportLines (serial : String) (r : Report) (decisions : List Decision) (names : List String) :
    List String :=
  ["[" ++ serial ++ "] " ++ r.status.name ++ ": " ++ r.message,
    "执行步骤数: " ++ Decimal.digits r.executed]
  ++ (if decisions.isEmpty then [] else "决策路径:" :: decisions.map decisionLine)
  ++ names.map fun name => "抽中: " ++ name

/-- How many accounts were processed, and how many of them succeeded and failed. -/
def countsText (processed succeeded failed : Nat) : String :=
  "处理 " ++ Decimal.digits processed ++ " 成功 " ++ Decimal.digits succeeded ++ " 失败 "
    ++ Decimal.digits failed

/-- The line about the work on a device. -/
def progressLine (p : Progress) : String :=
  "[" ++ p.serial ++ "] " ++ countsText p.processed p.succeeded p.failed
    ++ (match p.lastError with
      | some e => "（最后错误: " ++ e ++ "）"
      | none => "")

/-- The lines about the work of a fleet. -/
def statusLines (s : FleetStatus) : List String :=
  ["状态: " ++ s.state.name] ++ s.devices.map progressLine
  ++ ["合计: " ++ countsText s.processed s.succeeded s.failed ++ " 剩余 "
    ++ Decimal.digits s.queue.remaining]

/-- The line about a deleted account file. -/
def discardLine (file : String) : String := "已删除: " ++ file

end Autoplay.Console
