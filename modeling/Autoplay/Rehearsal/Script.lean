import Autoplay.Device.Command
import Autoplay.Workflow.Basic

/-!
# Scripts for rehearsals

A rehearsal runs without a device and without looking at pictures: a device script says which
screenshots there are and which commands fail, and a sight script says what is found on a screen.
-/

namespace Autoplay

/-- When a command fails, or takes long. -/
structure FailRule where
  /-- How the log lines of the commands begin that the rule is about. -/
  start : String
  /-- Number of such commands that are passed over first. -/
  skip : Nat := 0
  /-- Number of such commands that the rule then applies to; all of them if there is none. -/
  times : Option Nat := none
  /-- The failure, if there is one. -/
  error : Option DeviceError := none
  /-- How long the command takes. -/
  delay : Duration := .zero

namespace FailRule

/-- Whether the rule may still apply to a command. -/
def applies (r : FailRule) : Bool := r.times != some 0

/-- The rule after it was applied. -/
def used (r : FailRule) : FailRule := { r with times := r.times.map (· - 1) }

/-- Offers a command to the rules in their order: the first one that neither passes it over nor is
used up applies. -/
def offer (line : String) : List FailRule → Option FailRule × List FailRule
  | [] => (none, [])
  | r :: rest =>
    if line.startsWith r.start then
      if 0 < r.skip then
        let (hit, rest) := offer line rest
        (hit, { r with skip := r.skip - 1 } :: rest)
      else if r.applies then (some r, r.used :: rest)
      else
        let (hit, rest) := offer line rest
        (hit, r :: rest)
    else
      let (hit, rest) := offer line rest
      (hit, r :: rest)

end FailRule

/-- A device that follows a script. -/
structure DeviceScript where
  /-- The screenshots to come. -/
  frames : List Picture := []
  /-- The last screenshot. -/
  shown : Picture := .tabulate 64 48 fun _ _ => ⟨0, 0, 0⟩
  /-- When commands fail. -/
  rules : List FailRule := []
  /-- What shell commands print: how the log line begins, and the text. -/
  replies : List (String × String) := []
  /-- The name of the device, if it is not there. -/
  absent : Option String := none

namespace DeviceScript

/-- What a shell command prints. -/
def printed (d : DeviceScript) (line : String) : String :=
  match d.replies.find? fun r => line.startsWith r.1 with
  | some (_, text) => text
  | none => ""

/-- The answer to a command that succeeds. The last screenshot is repeated when there are
no more. -/
def reply (d : DeviceScript) : (c : Command) → c.Reply × DeviceScript
  | .screenshot =>
    match d.frames with
    | [] => (d.shown, d)
    | f :: rest => (f, { d with frames := rest, shown := f })
  | .shell line => (d.printed (Command.text (.shell line)), d)
  | .privileged line => (d.printed (Command.text (.privileged line)), d)
  | .connect => ((), d)
  | .tap .. => ((), d)
  | .swipe .. => ((), d)
  | .key _ => ((), d)
  | .push .. => ((), d)
  | .pull .. => ((), d)
  | .forceStop _ => ((), d)
  | .startApp _ => ((), d)

/-- Carries out a command that the rules let through. A device that is not there cannot be
connected. -/
def obey (d : DeviceScript) : (c : Command) → Except DeviceError c.Reply × DeviceScript
  | .connect =>
    match d.absent with
    | some serial => (.error (.notFound serial), d)
    | none => (.ok (), d)
  | c =>
    let (r, d) := d.reply c
    (.ok r, d)

/-- Carries out a command: the result and how long it takes. -/
def perform (d : DeviceScript) (c : Command) :
    Except DeviceError c.Reply × Duration × DeviceScript :=
  let (hit, rules) := FailRule.offer c.text d.rules
  let d := { d with rules }
  let delay := (hit.map FailRule.delay).getD .zero
  match hit.bind FailRule.error with
  | some e => (.error e, delay, d)
  | none =>
    let (r, d) := d.obey c
    (r, delay, d)

end DeviceScript

/-- The answer to a question about a template. -/
inductive Sighting where
  /-- It is at some places, or nowhere. -/
  | hits (places : List Point)
  /-- The question fails. -/
  | failure (text : String)

/-- What is seen of one template. -/
structure TemplateScript where
  /-- The answers to come. -/
  answers : List Sighting := []
  /-- The answer to all further questions. -/
  afterwards : Sighting := .hits []

/-- What is seen on screens. -/
structure SightScript where
  /-- What is seen of the templates, by the names of their files. -/
  templates : List (String × TemplateScript) := []
  /-- What is read, in turn. -/
  texts : List (Except String String) := []

namespace SightScript

/-- Takes the next answer out of the scripts of templates. -/
def take (name : String) :
    List (String × TemplateScript) → Sighting × List (String × TemplateScript)
  | [] => (.hits [], [])
  | (key, t) :: rest =>
    if key = name then
      match t.answers with
      | [] => (t.afterwards, (key, t) :: rest)
      | a :: more => (a, (key, { t with answers := more }) :: rest)
    else
      let (a, rest) := take name rest
      (a, (key, t) :: rest)

/-- The answer to a question about a template. -/
def ask (s : SightScript) (path : String) : Except String (List Point) × SightScript :=
  let (a, templates) := take ((Path.fileName? path).getD "") s.templates
  let s := { s with templates }
  match a with
  | .hits places => (.ok places, s)
  | .failure text => (.error text, s)

/-- The answer to a question about what is written. -/
def read (s : SightScript) : Except String String × SightScript :=
  match s.texts with
  | [] => (.ok "", s)
  | t :: rest => (t, { s with texts := rest })

end SightScript

/-- How questions about screens are answered, by means of something that may change with each. -/
structure Sight (π : Type) where
  /-- Where the best hit of a template is. -/
  find : Picture → String → Float32 → π → Except String (Option Point) × π
  /-- Where all hits of a template are. -/
  findAll : Picture → String → Float32 → π → Except String (List Point) × π
  /-- What is written on a screen or a part of it. -/
  readText : Picture → Option Region → π → Except String String × π

/-- Sight that follows a script. -/
def scriptedSight : Sight SightScript where
  find _ path _ s :=
    let (r, s) := s.ask path
    (r.map List.head?, s)
  findAll _ path _ s := s.ask path
  readText _ _ s := s.read

end Autoplay
