/-!
# Arguments of the command line

What is to be done is given by a word, and how by options in front of a value, as `--name value` or
`--name=value`, and by file names. `Invocation.parse` reads the arguments; it refuses options that
are unknown, missing, repeated or at odds with each other.
-/

namespace Autoplay.Console

/-- What is to be done. -/
inductive Order where
  /-- List the devices. -/
  | devices
  /-- Run a workflow on a device. -/
  | exec (device workflow : String)
  /-- Process the accounts of a folder on some devices, with a workflow from a file, or from a
  folder by its mode and perhaps its month. -/
  | run (accounts : String) (devices : List String) (workflow workflows mode month : Option String)
  /-- Delete broken account files. -/
  | discard (accounts : String) (files : List String)
deriving DecidableEq, Repr

/-- An order and the settings file that it is carried out with. -/
structure Invocation where
  /-- The settings file. -/
  settings : String
  /-- What is to be done. -/
  order : Order
deriving DecidableEq, Repr

/-- What the arguments ask for if not for an order. -/
inductive Detour where
  /-- How the program is used, or how it carries out the order of a word. -/
  | help (word : Option String)
  /-- Which version it is. -/
  | version
  /-- The arguments make no sense. -/
  | refused
deriving DecidableEq, Repr

/-- An option. -/
structure OptionRule where
  /-- Its name. -/
  name : String
  /-- What its value is called. -/
  value : String
  /-- What it is good for. -/
  about : String
  /-- Whether it has to be given. -/
  isNeeded : Bool := false
  /-- Whether its value is a path, which may not be empty. -/
  isPath : Bool := false
  /-- Whether it may be given several times. -/
  isRepeatable : Bool := false
  /-- The value that it has when it is not given. -/
  usual : Option String := none

/-- The settings file that is used when none is given. -/
def usualSettings : String := "automation.toml"

/-- The settings file, which can be given with every order and in front of it. -/
def settingsRule : OptionRule where
  name := "config"
  value := "CONFIG"
  about := "配置文件路径（TOML），不存在时使用默认配置"
  isPath := true
  usual := some usualSettings

/-- The folder of the accounts. -/
def accountsRule : OptionRule where
  name := "accounts"
  value := "ACCOUNTS"
  about := "账号凭据文件所在目录"
  isNeeded := true
  isPath := true

/-- What goes with the word for an order. -/
structure OrderRule where
  /-- The word. -/
  word : String
  /-- What the order is. -/
  about : String
  /-- The options. -/
  options : List OptionRule
  /-- What the files are that have to be given, if any can be. -/
  files : Option String := none

namespace OrderRule

/-- The rule for listing the devices. -/
def devices : OrderRule where
  word := "devices"
  about := "列出已连接的设备"
  options := [settingsRule]

/-- The rule for running a workflow on a device. -/
def exec : OrderRule where
  word := "exec"
  about := "在一台设备上执行一个工作流"
  options :=
    [settingsRule,
      { name := "device", value := "DEVICE", about := "设备序列号，例如 127.0.0.1:5555",
        isNeeded := true },
      { name := "workflow", value := "WORKFLOW", about := "工作流 JSON 文件",
        isNeeded := true, isPath := true }]

/-- The rule for processing the accounts of a folder. -/
def run : OrderRule where
  word := "run"
  about := "多设备并行处理账号目录"
  options :=
    [accountsRule, settingsRule,
      { name := "device", value := "DEVICES", about := "参与处理的设备，可重复指定",
        isNeeded := true, isRepeatable := true },
      { name := "workflow", value := "WORKFLOW",
        about := "每个账号执行的工作流文件；与 --workflows 二选一，都不给时使用内置领奖流程",
        isPath := true },
      { name := "workflows", value := "WORKFLOWS", about := "工作流目录，按 --mode / --month 选择",
        isPath := true },
      { name := "mode", value := "MODE", about := "玩法名，例如 daily-login" },
      { name := "month", value := "MONTH", about := "月份 YYYY-MM，默认当前月份" }]

/-- The rule for deleting broken account files. -/
def discard : OrderRule where
  word := "discard"
  about := "删除损坏的账号文件"
  options := [accountsRule, settingsRule]
  files := some "要删除的文件名"

/-- All rules. -/
def all : List OrderRule := [devices, exec, run, discard]

end OrderRule

/-- The options and file names that were given, in their order. -/
structure Given where
  /-- The options and their values. -/
  options : List (String × String) := []
  /-- The file names. -/
  files : List String := []

namespace Given

/-- The values of an option. -/
def values (g : Given) (name : String) : List String :=
  (g.options.filter fun o => o.1 = name).map (·.2)

/-- The value of an option that is given once at most. -/
def value? (g : Given) (name : String) : Option String := (g.values name).head?

/-- The value of an option that has to be given. -/
def value (g : Given) (name : String) : Except Detour String :=
  match g.value? name with
  | some v => .ok v
  | none => .error .refused

/-- Adds an option. -/
def add (g : Given) (rule : OptionRule) (v : String) : Except Detour Given :=
  if rule.isPath && v.isEmpty then .error .refused
  else if !rule.isRepeatable && (g.value? rule.name).isSome then .error .refused
  else .ok { g with options := g.options ++ [(rule.name, v)] }

end Given

/-- Whether an argument looks like an option. A single dash does not. -/
def isDashed (argument : String) : Bool :=
  argument ≠ "-" && argument.toList.head? == some '-'

/-- Whether an argument asks how the program is used. -/
def asksForHelp (argument : String) : Bool :=
  argument = "--help" || "-h".toList.isPrefixOf argument.toList

/-- The name in an option and the value behind its `=`, if there is one. -/
def splitOption? (argument : String) : Option (String × Option String) :=
  match argument.toList with
  | '-' :: '-' :: s =>
    let name := String.ofList (s.takeWhile (· ≠ '='))
    match s.dropWhile (· ≠ '=') with
    | _ :: v => some (name, some (String.ofList v))
    | [] => some (name, none)
  | _ => none

/-- The rule of an argument that is an option, and its value as far as it is part of
the argument. -/
def ruleOf (rules : List OptionRule) (argument : String) :
    Except Detour (OptionRule × Option String) :=
  match splitOption? argument with
  | none => .error .refused
  | some (name, v) =>
    match rules.find? fun r => r.name = name with
    | some rule => .ok (rule, v)
    | none => .error .refused

/-- Reads options and file names; everything behind `--` is a file name. -/
def scan (order : OrderRule) : List String → Given → Except Detour Given
  | [], g => .ok g
  | argument :: rest, g =>
    if argument = "--" then
      if order.files.isSome || rest.isEmpty then .ok { g with files := g.files ++ rest }
      else .error .refused
    else if asksForHelp argument then .error (.help (some order.word))
    else if isDashed argument then
      match ruleOf order.options argument with
      | .error e => .error e
      | .ok (rule, some v) => do scan order rest (← g.add rule v)
      | .ok (rule, none) =>
        match rest with
        | [] => .error .refused
        | v :: rest =>
          if isDashed v then .error .refused else do scan order rest (← g.add rule v)
    else if order.files.isSome then
      scan order rest { g with files := g.files ++ [argument] }
    else .error .refused

/-- Reads the arguments of an order, which have to give all that is needed. -/
def OrderRule.read (order : OrderRule) (arguments : List String) : Except Detour Given := do
  let g ← scan order arguments {}
  let lacks := order.options.any fun rule => rule.isNeeded && (g.value? rule.name).isNone
  if lacks || (order.files.isSome && g.files.isEmpty) then throw .refused
  pure g

/-- Reads the options in front of the order; the result is what was given, the word for the order,
and the arguments behind it. -/
def scanFront : List String → Given → Except Detour (Given × String × List String)
  | [], _ => .error .refused
  | argument :: rest, g =>
    if asksForHelp argument then .error (.help none)
    else if argument = "--version" || "-V".toList.isPrefixOf argument.toList then .error .version
    else if isDashed argument then
      match ruleOf [settingsRule] argument with
      | .error e => .error e
      | .ok (rule, some v) => do scanFront rest (← g.add rule v)
      | .ok (rule, none) =>
        match rest with
        | [] => .error .refused
        | v :: rest => if isDashed v then .error .refused else do scanFront rest (← g.add rule v)
    else .ok (g, argument, rest)

/-- The word that asks how the program is used. -/
def helpWord : String := "help"

/-- Reads the words behind `helpWord`. -/
def parseHelp : List String → Detour
  | [] => .help none
  | [word] => if word ∈ helpWord :: OrderRule.all.map (·.word) then .help (some word) else .refused
  | _ => .refused

/-- Reads the arguments of a word for an order. -/
def parseOrder (word : String) (arguments : List String) : Except Detour (Given × Order) :=
  match word with
  | "devices" => do
    let g ← OrderRule.devices.read arguments
    pure (g, .devices)
  | "exec" => do
    let g ← OrderRule.exec.read arguments
    pure (g, .exec (← g.value "device") (← g.value "workflow"))
  | "run" => do
    let g ← OrderRule.run.read arguments
    let workflow := g.value? "workflow"
    let workflows := g.value? "workflows"
    let mode := g.value? "mode"
    if workflows.isSome && (workflow.isSome || mode.isNone) then throw .refused
    pure (g, .run (← g.value "accounts") (g.values "device") workflow workflows mode
      (g.value? "month"))
  | "discard" => do
    let g ← OrderRule.discard.read arguments
    pure (g, .discard (← g.value "accounts") g.files)
  | word => .error (if word = helpWord then parseHelp arguments else .refused)

/-- Reads the arguments. A settings file that is given with the order counts before one in front of
it. -/
def Invocation.parse (arguments : List String) : Except Detour Invocation := do
  let (front, word, rest) ← scanFront arguments {}
  let (given, order) ← parseOrder word rest
  let settings := (given.value? settingsRule.name).or (front.value? settingsRule.name)
  pure ⟨settings.getD usualSettings, order⟩

end Autoplay.Console
