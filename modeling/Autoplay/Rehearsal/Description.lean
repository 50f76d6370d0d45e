import Autoplay.Files.Operations
import Autoplay.Rehearsal.Drawing
import Autoplay.Rehearsal.Tools

/-!
# Descriptions of rehearsals

Documents that describe what a rehearsal takes place in: files, a device and when its commands fail,
what is seen of templates and texts, and what comes of calls of other programs.
-/

namespace Autoplay

/-- A number of a description stands for a count of 32 bits. -/
scoped instance coeCount : Coe Nat UInt32 := ⟨UInt32.ofNat⟩

/-- The region that a list of four numbers gives. -/
def Region.ofDocument? : Document → Option Region
  | .list [x, y, w, h] => some ⟨x.word, y.word, w.word, h.word⟩
  | _ => none

namespace FileTree

/-- Puts one thing into a folder: a text makes a file, nothing makes a folder, and anything else
makes a link. What cannot be put there is left out. -/
def addDescribed (root : String) (t : FileTree) (name : String) (d : Document) : FileTree :=
  let path := Path.join root name
  match d with
  | .null => (t.makeFolders path).1
  | d =>
    let t := match Path.parent? path with
      | some parent => (t.makeFolders parent).1
      | none => t
    let added := match d with
      | .text s => t.writeText path s
      | d => t.makeLink path (d.get "link").str
    match added with
    | .ok t => t
    | .error _ => t

end FileTree

/-- The failure of a device. -/
def DeviceError.ofDocument (d : Document) : DeviceError :=
  let t (name : String) := (d.get name).str
  match t "kind" with
  | "NoData" => .noData (t "what")
  | "NotFound" => .notFound (t "serial")
  | "Failed" => .failed (t "command") (t "status") (t "output")
  | "Timeout" => .timeout (t "command") ⟨(d.get "nanos").nat⟩
  | "Spawn" => .spawn (t "program") (.other (t "text"))
  | _ => .system (.other (t "text"))

/-- When commands fail, or take long. -/
def FailRule.ofDocument (d : Document) : FailRule where
  start := (d.get "on").str
  skip := (d.get "skip").nat
  times := (d.get "times").nat?
  error := if (d.get "error").isNull then none else some (.ofDocument (d.get "error"))
  delay := .ofMillis (d.get "delay_ms").nat

/-- A device. -/
def DeviceScript.ofDocument (d : Document) : DeviceScript where
  frames := (d.get "frames").items.map Drawing.picture
  rules := (d.get "fail").items.map .ofDocument
  replies := (d.get "reply").items.map fun r => ((r.get "on").str, (r.get "out").str)

/-- The answer to a question about a template: places, or why the question fails. -/
def Sighting.ofDocument : Document → Sighting
  | .text t => .failure t
  | d => .hits (d.items.map fun p => ⟨(p.item 0).place, (p.item 1).place⟩)

/-- What is seen on screens. -/
def SightScript.ofDocument (d : Document) : SightScript where
  templates := (d.get "templates").fields.map fun (name, t) =>
    (name, ⟨(t.get "answers").items.map .ofDocument, .ofDocument (t.get "then")⟩)
  texts := (d.get "texts").items.map fun t =>
    match t with
    | .text s => .ok s
    | d => .error (d.get "err").str

namespace ToolReply

/-- The value of a hexadecimal digit. -/
def hexDigit (c : Char) : Nat := if c.isDigit then c.toNat - 48 else c.toLower.toNat - 87

/-- The bytes of pairs of hexadecimal digits. -/
def hexBytes : List Char → List UInt8
  | a :: b :: rest => UInt8.ofNat (hexDigit a * 16 + hexDigit b) :: hexBytes rest
  | _ => []

/-- What comes of a call of a program. One that sleeps does nothing else. -/
def ofDocument (d : Document) : ToolReply :=
  if (d.get "sleep").isNull then
    let code := (d.get "code").int
    { result :=
        { exit := if code < 0 then .killed else .code (code.toNat % 256)
          output := match d.get "out_hex" with
            | .text h => hexBytes h.toList
            | _ => (d.get "out").str.toUTF8.toList
          messages := (d.get "err").str.toUTF8.toList } }
  else { length := (Duration.ofSeconds? (d.get "sleep").num).getD .zero }

end ToolReply

/-- A scripted program. -/
def ToolScript.ofDocument (program : String) (replies : Document) : ToolScript where
  programs := [program]
  replies := replies.items.map .ofDocument

/-- What looks at screens, with templates in files below a folder and a program that reads. -/
def Viewer.ofDocument (root program : String) (s : Settings) (files : FileTree)
    (templates replies : Document) : Viewer where
  recognition := { s.recognition with program }
  matcher := { settings := s.vision }
  album := templates.fields.filterMap fun (name, d) =>
    match files.resolve true (Path.join root name) with
    | .ok l => some (l, (Drawing.picture d).grey)
    | .error _ => none
  files := files
  reader := .ofDocument program replies

end Autoplay
