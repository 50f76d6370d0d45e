import Autoplay.Files.Tree
import Autoplay.Recognition.Reader
import Autoplay.Rehearsal.Script
import Autoplay.Tool
import Autoplay.Vision.Matcher

/-!
# Scripted programs

In a rehearsal the calls of other programs are answered from a list, in turn; what they are started
with is written down. Sight through the real matcher and the real reader needs no more than such a
program and the pictures that stand for template files.
-/

namespace Autoplay

/-- What comes of a call of a scripted program. -/
structure ToolReply where
  /-- What it leaves behind. -/
  result : ToolOutput := {}
  /-- How long it takes. -/
  length : Duration := .ofMillis 1

/-- Scripted programs. -/
structure ToolScript where
  /-- The programs that there are. -/
  programs : List String := []
  /-- What comes of the calls, in turn; further calls end well at once. -/
  replies : List ToolReply := []
  /-- What the programs were started with, the last call first. -/
  calls : List (List String) := []

namespace ToolScript

/-- Answers a call: what comes of it, and how long that takes. -/
def play (c : ToolCall) (s : ToolScript) : ToolResult × Duration × ToolScript :=
  if (c.program :: c.arguments).any fun a => a.toList.contains (Char.ofNat 0) then
    (.refused .invalidInput, .zero, s)
  else if c.program ∉ s.programs then (.refused .notFound, .zero, s)
  else
    let reply := s.replies.headD {}
    let s := { s with replies := s.replies.drop 1, calls := c.arguments :: s.calls }
    match c.limit with
    | some limit =>
      if limit.nanos ≤ reply.length.nanos then (.timedOut, limit, s)
      else (.ended reply.result, reply.length, s)
    | none => (.ended reply.result, reply.length, s)

/-- Answers a call, however long it takes. -/
def answer (c : ToolCall) (s : ToolScript) : ToolResult × ToolScript :=
  let (r, _, s) := s.play c
  (r, s)

/-- What stands for the name of the file with a prepared screen. -/
def pageName : String := "<png>"

/-- Answers a call of the program that reads. -/
def answerReader (c : Recognition.ReaderCall) (s : ToolScript) : ToolResult × ToolScript :=
  match c with
  | .read _ call => s.answer { call with arguments := pageName :: call.arguments }
  | .version program => s.answer ⟨program, ["--version"], none⟩

end ToolScript

/-- What is needed to look at screens. -/
structure Viewer where
  /-- The settings of recognition. -/
  recognition : RecognitionSettings := {}
  /-- What finds templates. -/
  matcher : Matcher := {}
  /-- The templates that can be read, by the locations of their files. -/
  album : List (Location × GreyPicture) := []
  /-- The files. -/
  files : FileTree := {}
  /-- The program that reads. -/
  reader : ToolScript := {}

/-- The template of a path. -/
def Viewer.template (v : Viewer) (path : String) : Option GreyPicture :=
  match v.files.resolve true path with
  | .ok l => v.album.lookup l
  | .error _ => none

/-- Sight that looks at the screens. -/
def viewing : Sight Viewer where
  find screen path threshold v :=
    let (r, matcher) := v.matcher.find v.template screen path threshold
    (r, { v with matcher })
  findAll screen path threshold v :=
    let (r, matcher) := v.matcher.findAll v.template screen path threshold
    (r, { v with matcher })
  readText screen region v :=
    match (Recognition.extractText v.recognition screen region).run ToolScript.answerReader
      v.reader with
    | (.ok r, reader) => (r, { v with reader })
    | (.error _, reader) => (.ok "", { v with reader })

end Autoplay
