import Autoplay.Dialogue
import Autoplay.Recognition.Preparation
import Autoplay.Settings.Basic
import Autoplay.Text.Blank
import Autoplay.Tool

/-!
# Reading texts off a screen

The prepared screen is handed to a program for text recognition, which prints what it reads.
-/

namespace Autoplay.Recognition

/-- A call of the program that reads. The file with the prepared screen is its first argument, in
front of those of the call. -/
inductive ReaderCall where
  /-- Read a screen. -/
  | read (page : GreyPicture) (call : ToolCall)
  /-- Tell the version. -/
  | version (program : String)

/-- A dialogue with the program that reads. -/
abbrev Reading := Dialogue ReaderCall fun _ => ToolResult

/-- What the program is started with behind the file name. -/
def readerArguments (s : RecognitionSettings) : List String :=
  ["stdout", "-l", s.lang, "--psm", Decimal.digits s.psm.toNat]

/-- Whether the program can be used. -/
def isAvailable (s : RecognitionSettings) : Reading Bool := do
  match ← Dialogue.request (.version s.program) with
  | .ended o => pure o.exit.isSuccess
  | _ => pure false

/-- What the program makes of a prepared screen. A picture without pixels cannot be handed over. -/
def readPage (s : RecognitionSettings) (page : GreyPicture) :
    Reading (Except String String) := do
  if page.width * page.height = 0 then
    return .error "failed to write OCR input image"
  match ← Dialogue.request (.read page ⟨s.program, readerArguments s, none⟩) with
  | .ended o =>
    if o.exit.isSuccess then pure (.ok (Text.trim o.outputText))
    else
      pure (.error ("tesseract exited with " ++ o.exit.text ++ ": " ++ Text.trim o.messageText))
  | _ => pure (.error ("failed to spawn " ++ s.program))

/-- What is written on a screen or a region of it, without blanks around it. -/
def extractText (s : RecognitionSettings) (screen : Picture) (region : Option Region) :
    Reading (Except String String) := do
  match prepare s.contrast screen region with
  | .error e => pure (.error e)
  | .ok page => readPage s page

end Autoplay.Recognition
