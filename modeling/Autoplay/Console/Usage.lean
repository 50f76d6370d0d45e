import Autoplay.Console.Arguments
import Autoplay.Console.Lines

/-!
# How the program is used

What is printed when the arguments ask for help: what the program or one of its orders does, how the
arguments go together, and what each of them means.
-/

namespace Autoplay.Console

/-- The name of the program. -/
def programName : String := "automation"

/-- What the program does. -/
def programAbout : String := "安卓模拟器上的手游自动化：按工作流执行操作并批量切换账号"

/-- What the word that asks for help does. -/
def helpAbout : String := "Print this message or the help of the given subcommand(s)"

/-- Terms and what they mean, the meanings under each other. -/
def glossaryLines (entries : List (String × String)) : List String :=
  let width := (entries.map fun e => e.1.length).foldl max 0
  entries.map fun (term, meaning) => "  " ++ column (width + 2) term ++ meaning

/-- A heading and the terms below it, with a line between them and what is above. -/
def sectionLines (heading : String) (entries : List (String × String)) : List String :=
  ["", heading ++ ":"] ++ glossaryLines entries

/-- What a program or an order does, and how its arguments go together. -/
def introduction (about usage : String) : List String :=
  [about, "", "Usage: " ++ programName ++ " " ++ usage]

/-- An option in front of its value. -/
def OptionRule.term (rule : OptionRule) : String := "--" ++ rule.name ++ " <" ++ rule.value ++ ">"

/-- An option in a list of terms; the room in front is that of a short name. -/
def OptionRule.entry (rule : OptionRule) : String × String :=
  ("    " ++ rule.term,
    match rule.usual with
    | some v => rule.about ++ " [default: " ++ v ++ "]"
    | none => rule.about)

/-- The option that asks for help. -/
def helpEntry : String × String := ("-h, --help", "Print help")

/-- The option that asks for the version. -/
def versionEntry : String × String := ("-V, --version", "Print version")

/-- What stands for files that have to be given. -/
def filesTerm : String := "<FILES>..."

/-- How the arguments of an order go together. -/
def OrderRule.usage (order : OrderRule) : String :=
  let needed := order.options.filter (·.isNeeded)
  " ".intercalate <|
    [order.word, "[OPTIONS]"] ++ needed.map OptionRule.term
      ++ (if order.files.isSome then [filesTerm] else [])

/-- What is printed about an order. -/
def OrderRule.helpLines (order : OrderRule) : List String :=
  introduction order.about order.usage
  ++ (match order.files with
    | some about => sectionLines "Arguments" [(filesTerm, about)]
    | none => [])
  ++ sectionLines "Options" (order.options.map OptionRule.entry ++ [helpEntry])

/-- What is printed about the program. -/
def programHelpLines : List String :=
  introduction programAbout "[OPTIONS] <COMMAND>"
  ++ sectionLines "Commands"
    ((OrderRule.all.map fun order => (order.word, order.about)) ++ [(helpWord, helpAbout)])
  ++ sectionLines "Options" [settingsRule.entry, helpEntry, versionEntry]

/-- What is printed about asking for help. -/
def helpHelpLines : List String :=
  introduction helpAbout (helpWord ++ " [COMMAND]...")
  ++ sectionLines "Arguments" [("[COMMAND]...", "Print help for the subcommand(s)")]

/-- What is printed about the order of a word, or about the program. -/
def helpLines (word : Option String) : List String :=
  match word with
  | none => programHelpLines
  | some word =>
    match OrderRule.all.find? fun order => order.word = word with
    | some order => order.helpLines
    | none => helpHelpLines

/-- The version of the program. -/
def versionLine : String := programName ++ " 0.1.0"

end Autoplay.Console
